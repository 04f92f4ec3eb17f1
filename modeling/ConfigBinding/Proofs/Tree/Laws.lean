import ConfigBinding.Proofs.Sequence
import ConfigBinding.Tree.Guarded
import ConfigBinding.Tree.Sorted

/-!
# What stores do with single keys

Objects are written under single keys. What a store does with those is told by three properties:
failing writes change nothing (`Store.IsAtomic`), no write fails at all (`Store.TakesKeys`), and an
entry only changes to the value that is stored under its key (`Store.IsKeyed`).
-/

namespace ConfigBinding

/-! ## Properties of stores -/

namespace Store

/-- What fails under a single key changes nothing. -/
structure IsAtomic (σ : Type) [Store σ] : Prop where
  set : ∀ {s s' : σ} {key : String} {v : Value} {e : Error},
    Store.set s [key] v = (.error e, s') → s' = s
  setComment : ∀ {s s' : σ} {key text : String} {e : Error},
    Store.setComment s [key] text = (.error e, s') → s' = s

/-- Nothing fails under a single key. -/
structure TakesKeys (σ : Type) [Store σ] : Prop where
  set : ∀ {s s' : σ} {key : String} {v : Value} {e : Error},
    Store.set s [key] v ≠ (.error e, s')
  setComment : ∀ {s s' : σ} {key text : String} {e : Error},
    Store.setComment s [key] text ≠ (.error e, s')

/-- Under single keys, a write changes at most the entry of its key, and that to the value which is
stored; comments change no entry. -/
structure IsKeyed (σ : Type) [Store σ] : Prop where
  set : ∀ (s : σ) (key : String) (v : Value) (key' : String),
    getRaw (Store.set s [key] v).2 [key'] = getRaw s [key']
      ∨ key = key' ∧ getRaw (Store.set s [key] v).2 [key'] = Entry.of (some v)
  setComment : ∀ (s : σ) (key text key' : String),
    getRaw (Store.setComment s [key] text).2 [key'] = getRaw s [key']

theorem TakesKeys.isAtomic {σ : Type} [Store σ] (h : TakesKeys σ) : IsAtomic σ :=
  ⟨fun hset => absurd hset h.set, fun hcomment => absurd hcomment h.setComment⟩

end Store

namespace Tree

theorem takesKeys : Store.TakesKeys Tree := ⟨nofun, nofun⟩

theorem isKeyed : Store.IsKeyed Tree where
  set t key v key' := by
    by_cases h : key = key'
    · subst h
      exact .inr ⟨rfl, congrArg Entry.of (Keyed.get?_insert_self _ _ _)⟩
    · exact .inl (congrArg Entry.of (Keyed.get?_insert_of_ne _ _ (Ne.symm h)))
  setComment _ _ _ _ := rfl

end Tree

namespace SortedTree

variable {entries : List (String × Value)} {key key' : String} {v : Value}

theorem get?_insertEntry_self : Keyed.get? (insertEntry entries key v) key = some v := by
  induction entries with
  | nil => exact if_pos rfl
  | cons p rest ih =>
    obtain ⟨k, w⟩ := p
    rw [insertEntry]
    split
    · rename_i hk
      exact if_pos hk
    · rename_i hk
      split
      · exact if_pos rfl
      · rw [Keyed.get?_cons, if_neg hk, ih]

theorem get?_insertEntry_of_ne (h : key ≠ key') :
    Keyed.get? (insertEntry entries key v) key' = Keyed.get? entries key' := by
  induction entries with
  | nil => exact if_neg h
  | cons p rest ih =>
    obtain ⟨k, w⟩ := p
    rw [insertEntry]
    split
    · rename_i hk
      subst hk
      rw [Keyed.get?_cons, Keyed.get?_cons, if_neg h, if_neg h]
    · split
      · rw [Keyed.get?_cons, if_neg h]
      · rw [Keyed.get?_cons, Keyed.get?_cons, ih]

theorem takesKeys : Store.TakesKeys SortedTree := ⟨nofun, nofun⟩

theorem isKeyed : Store.IsKeyed SortedTree where
  set t key v key' := by
    by_cases h : key = key'
    · subst h
      exact .inr ⟨rfl, congrArg Entry.of get?_insertEntry_self⟩
    · exact .inl (congrArg Entry.of (get?_insertEntry_of_ne h))
  setComment _ _ _ _ := rfl

end SortedTree

namespace GuardedTree

theorem isAtomic : Store.IsAtomic GuardedTree where
  set {g g' key v e} h := by
    have h : GuardedTree.set g [key] v = (.error e, g') := h
    rw [GuardedTree.set] at h
    split at h
    · exact (Prod.mk.inj h).2.symm
    · cases h
  setComment {g g' key text e} h := by
    have h : GuardedTree.setComment g [key] text = (.error e, g') := h
    rw [GuardedTree.setComment] at h
    split at h
    · exact (Prod.mk.inj h).2.symm
    · cases h

theorem isKeyed : Store.IsKeyed GuardedTree where
  set g key v key' := by
    show Store.getRaw (GuardedTree.set g [key] v).2 [key'] = _
      ∨ _ ∧ Store.getRaw (GuardedTree.set g [key] v).2 [key'] = _
    rw [GuardedTree.set]
    split
    · exact .inl rfl
    · exact Tree.isKeyed.set g.tree key v key'
  setComment g key text key' := by
    show Store.getRaw (GuardedTree.setComment g [key] text).2 [key'] = _
    rw [GuardedTree.setComment]
    split
    · rfl
    · exact Tree.isKeyed.setComment g.tree key text key'

end GuardedTree

end ConfigBinding
