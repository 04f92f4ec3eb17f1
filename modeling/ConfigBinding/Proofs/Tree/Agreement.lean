import ConfigBinding.Proofs.Tree.Laws
import ConfigBinding.Proofs.Tree.Walk
import Mathlib.Data.List.Nodup

/-!
# The sorted tree shows what the ordered one shows

A tree with sorted keys goes only one step down itself, and leaves the rest to the map below. Seen
through paths it is still no other store than a `Tree`: when the two hold the same under every key
(`SortedTree.Agrees`), they show the same at every path, a call of `set` returns the same from both,
and afterwards they agree again (`Agrees.set`). So they stay together over every run of calls
(`Agrees.setEach`), and what is known of paths into a `Tree` holds of a tree with sorted keys.
-/

namespace ConfigBinding

/-! ## Runs of calls -/

namespace Store

variable {σ τ : Type} [Store σ] [Store τ]

/-- What calls of `set` return one after the other, each with the store that it leaves. -/
def setEach (s : σ) : List (List String × Value) → List (Result (Option Value) × σ)
  | [] => []
  | (path, v) :: calls => Store.set s path v :: setEach (Store.set s path v).2 calls

/-- Two stores show the same at every path. -/
def ShowSame (s : σ) (t : τ) : Prop :=
  ∀ path, getRaw s path = getRaw t path ∧ contains s path = contains t path

/-- Two calls both succeed and return the same old value, or both fail, and leave stores that show
the same. -/
def StepSame (a : Result (Option Value) × σ) (b : Result (Option Value) × τ) : Prop :=
  a.1.toOption = b.1.toOption ∧ ShowSame a.2 b.2

end Store

namespace SortedTree

variable {s s' : SortedTree} {t : Tree} {key other : String} {path rest : List String} {v : Value}

/-! ## What a tree with sorted keys holds -/

theorem get?_insert_self (s : SortedTree) (key : String) (v : Value) :
    (s.insert key v).get? key = some v := get?_insertEntry_self

theorem get?_insert_of_ne (h : other ≠ key) : (s.insert key v).get? other = s.get? other :=
  get?_insertEntry_of_ne h.symm

theorem distinct (s : SortedTree) : Keyed.Distinct s.entries := by
  refine List.pairwise_map.mpr (s.ascending.imp ?_)
  intro p q hlt heq
  exact String.lt_irrefl _ (heq ▸ hlt)

theorem mem_entries_iff (s : SortedTree) (key : String) (v : Value) :
    (key, v) ∈ s.entries ↔ s.get? key = some v :=
  ⟨Keyed.get?_of_mem s.distinct, Keyed.mem_of_get?⟩

/-- A tree with sorted keys is known by what it holds under each key. -/
theorem ext_get? (h : ∀ key, s.get? key = s'.get? key) : s = s' := by
  have hmem : ∀ p, p ∈ s.entries ↔ p ∈ s'.entries := by
    intro (key, v)
    rw [mem_entries_iff, mem_entries_iff, h key]
  have hperm : s.entries.Perm s'.entries :=
    (List.perm_ext_iff_of_nodup (List.Nodup.of_map _ s.distinct)
      (List.Nodup.of_map _ s'.distinct)).mpr hmem
  have hentries : s.entries = s'.entries := by
    refine hperm.eq_of_pairwise ?_ s.ascending s'.ascending
    intro p q _ _ hlt hlt'
    exact absurd (String.lt_trans hlt hlt') (String.lt_irrefl _)
  obtain ⟨entries, hascending⟩ := s
  obtain ⟨entries', hascending'⟩ := s'
  exact (mk.injEq ..).mpr hentries

theorem set_cons (hrest : rest ≠ []) :
    s.set (key :: rest) v = match (s.withMap key).sub? key with
      | none => (.error (.ofPath (key :: rest) (.notConfig key)), s.withMap key)
      | some sub =>
        ((sub.set rest v).1, (s.withMap key).insert key (.config (sub.set rest v).2)) := by
  match rest with
  | [] => exact absurd rfl hrest
  | _ :: _ => rfl

/-! ## Trees that agree -/

/-- Both trees hold the same under every key. -/
def Agrees (s : SortedTree) (t : Tree) : Prop := ∀ key, s.get? key = t.get? key

/-- A tree with sorted keys agrees with its entries in that order. -/
theorem agrees_entries (s : SortedTree) : s.Agrees ⟨s.entries, []⟩ := fun _ => rfl

theorem agrees_empty : empty.Agrees .empty := fun _ => rfl

namespace Agrees

theorem insert (h : s.Agrees t) (key : String) (v : Value) :
    (s.insert key v).Agrees (t.insert key v) := by
  intro other
  by_cases hkey : other = key
  · subst hkey
    rw [get?_insert_self, Tree.get?_insert_self]
  · rw [get?_insert_of_ne hkey, Tree.get?_insert_of_ne hkey, h other]

theorem sub? (h : s.Agrees t) (key : String) : s.sub? key = t.sub? key := by
  rw [SortedTree.sub?, Tree.sub?, h key]

theorem withMap (h : s.Agrees t) (key : String) : (s.withMap key).Agrees (t.withMap key) := by
  have hcontains : s.contains key = t.contains key := congrArg Option.isSome (h key)
  rw [SortedTree.withMap, Tree.withMap, hcontains]
  split
  · exact h
  · exact h.insert key _

theorem lookup? (h : s.Agrees t) (path : List String) : s.lookup? path = t.lookup? path := by
  match path with
  | [] => rfl
  | [key] => exact h key
  | key :: k :: rest =>
    show (s.sub? key).bind _ = (t.sub? key).bind _
    rw [h.sub? key]
    rfl

theorem getRaw (h : s.Agrees t) (path : List String) : Store.getRaw s path = Store.getRaw t path :=
  congrArg Entry.of (h.lookup? path)

theorem showSame (h : s.Agrees t) : Store.ShowSame s t := by
  intro path
  refine ⟨h.getRaw path, ?_⟩
  rw [Store.contains, Store.contains, h.getRaw path]

/-- A call of `set` returns the same from trees that agree, and they still agree after it. -/
theorem set (h : s.Agrees t) (path : List String) (v : Value) :
    (s.set path v).1.toOption = (t.set path v).1.toOption
      ∧ (s.set path v).2.Agrees (t.set path v).2 := by
  match path with
  | [] => exact ⟨rfl, h⟩
  | [key] => exact ⟨congrArg some (h key), h.insert key v⟩
  | key :: k :: rest =>
    have hrest : k :: rest ≠ [] := List.cons_ne_nil k rest
    have hmade : (s.withMap key).Agrees (t.withMap key) := h.withMap key
    rw [Tree.set, Tree.toOption_outcome, Tree.outcome, Tree.editAt_cons hrest, set_cons hrest,
      hmade.sub? key, ← Tree.below?]
    cases t.below? key with
    | none => exact ⟨rfl, hmade⟩
    | some sub =>
      have hafter := hmade.insert key (.config (sub.set (k :: rest) v).2)
      rw [Tree.insert_withMap] at hafter
      exact ⟨Tree.toOption_outcome _ _, hafter⟩

theorem set_ok (h : s.Agrees t) {old : Option Value} (hset : s.set path v = (.ok old, s')) :
    ∃ t', t.set path v = (.ok old, t') ∧ s'.Agrees t' := by
  obtain ⟨hreturned, hafter⟩ := h.set path v
  rw [hset] at hreturned hafter
  exact ⟨_, Prod.ext (Result.toOption_eq_some.mp hreturned.symm) rfl, hafter⟩

theorem set_error (h : s.Agrees t) {e : Error} (hset : s.set path v = (.error e, s')) :
    ∃ e' t', t.set path v = (.error e', t') ∧ s'.Agrees t' := by
  obtain ⟨hreturned, hafter⟩ := h.set path v
  rw [hset] at hreturned hafter
  obtain ⟨e', he'⟩ := Result.toOption_eq_none.mp hreturned.symm
  exact ⟨e', _, Prod.ext he' rfl, hafter⟩

/-- Trees that agree stay together over every run of calls. -/
theorem setEach (h : s.Agrees t) (calls : List (List String × Value)) :
    List.Forall₂ Store.StepSame (Store.setEach s calls) (Store.setEach t calls) := by
  induction calls generalizing s t with
  | nil => exact .nil
  | cons call calls ih =>
    obtain ⟨path, v⟩ := call
    obtain ⟨hreturned, hafter⟩ := h.set path v
    exact .cons ⟨hreturned, hafter.showSame⟩ (ih hafter)

end Agrees

/-- A call of `set` that fails leaves the tree as it was. The tree that shows the same does not
change, and shows what is in this one. -/
theorem set_unchanged {e : Error} (h : s.set path v = (.error e, s')) : s' = s := by
  obtain ⟨e', t', hset, hafter⟩ := s.agrees_entries.set_error h
  have hsame : t' = ⟨s.entries, []⟩ := Tree.set_unchanged hset
  subst hsame
  exact ext_get? hafter

/-- Every run of calls from the empty trees returns the same from both, call by call, and after each
call both trees show the same at every path. -/
theorem setEach_sameAsTree (calls : List (List String × Value)) :
    List.Forall₂ Store.StepSame (Store.setEach empty calls) (Store.setEach Tree.empty calls) :=
  agrees_empty.setEach calls

end SortedTree

end ConfigBinding
