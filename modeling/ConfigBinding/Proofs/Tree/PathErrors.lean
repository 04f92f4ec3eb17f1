import ConfigBinding.Proofs.Tree.PathLaws

/-!
# What an error about a path says

A call of `set` that fails names the key at which it had to stop: the last one of the shortest
prefix of its path that holds something other than a map (`Store.StopsAt`). An edit finds that key
one map after the other, and each map passes the answer up as it is
(`Tree.stopsAt_of_editAt_error`).

The path in the error is another matter. A `Tree` is asked once and has the whole path at hand. A
tree with sorted keys leaves everything behind the first key to the map below, which knows of no
more than the rest of the path and reports that (`SortedTree.error_of_set`). So two trees that show
the same report the same error only where the first key itself is in the way
(`Store.set_reports`).
-/

namespace ConfigBinding

/-- At `key`, behind `before`, ends the shortest prefix of a path that holds something other than a
map. -/
structure Store.StopsAt {σ : Type} [Store σ] (s : σ) (path before : List String) (key : String) :
    Prop where
  /-- The keys are the first ones of the path. -/
  leads : before ++ [key] <+: path
  /-- What stands there is no map. -/
  obstructs : (Store.getRaw s (before ++ [key])).obstructs = true
  /-- No shorter prefix holds anything but a map. -/
  shortest : ∀ e, e <+: path → (Store.getRaw s e).obstructs = true → before.length < e.length

namespace Tree

variable {α : Type} {edit : String → Tree → α × Tree} {t t' sub : Tree} {key : String}
  {path rest before : List String} {fault : PathFault}

theorem getRaw_below (hsub : t.below? key = some sub) (hrest : rest ≠ []) :
    Store.getRaw t (key :: rest) = Store.getRaw sub rest :=
  congrArg Entry.of (readAt_below isLocal_get? hsub hrest)

/-- A key that holds something other than a map is in the way of every path through it. -/
theorem obstructs_iff : (Store.getRaw t [key]).obstructs = true ↔ t.below? key = none :=
  Entry.obstructs_of_iff.trans below?_eq_none.symm

/-- A prefix that is in the way starts with the first key, and leads into the map behind it unless
that key is in the way itself. -/
theorem exists_below_of_obstructs {e : List String} (hsub : t.below? key = some sub)
    (he : e <+: key :: rest) (hobstructs : (Store.getRaw t e).obstructs = true) :
    ∃ e', e = key :: e' ∧ e' <+: rest ∧ (Store.getRaw sub e').obstructs = true := by
  match e with
  | [] => cases hobstructs
  | other :: e' =>
    obtain ⟨rfl, hstart⟩ := List.cons_prefix_cons.mp he
    by_cases hnil : e' = []
    · subst hnil
      rw [obstructs_iff.mp hobstructs] at hsub
      cases hsub
    · rw [getRaw_below hsub hnil] at hobstructs
      exact ⟨e', rfl, hstart, hobstructs⟩

theorem stopsAt_first (h : t.below? key = none) : Store.StopsAt t (key :: rest) [] key where
  leads := List.prefix_append [key] rest
  obstructs := obstructs_iff.mpr h
  shortest := by
    intro e _ hobstructs
    refine List.length_pos_iff.mpr ?_
    rintro rfl
    cases hobstructs

/-- Where the map behind the first key stops an edit, the tree stops it. -/
theorem stopsAt_behind {other : String} (hsub : t.below? other = some sub)
    (h : Store.StopsAt sub rest before key) :
    Store.StopsAt t (other :: rest) (other :: before) key where
  leads := List.cons_prefix_cons.mpr ⟨rfl, h.leads⟩
  obstructs := by
    have hne : before ++ [key] ≠ [] := List.append_ne_nil_of_right_ne_nil before nofun
    rw [List.cons_append, getRaw_below hsub hne]
    exact h.obstructs
  shortest := by
    intro e he hobstructs
    obtain ⟨e', rfl, hstart, hbelow⟩ := exists_below_of_obstructs hsub he hobstructs
    exact Nat.succ_lt_succ (h.shortest e' hstart hbelow)

/-- An edit that fails names the first key at which something other than a map stands. -/
theorem stopsAt_of_editAt_error (hpath : path ≠ [])
    (h : editAt edit path t = (.error fault, t')) :
    ∃ before key, Store.StopsAt t path before key ∧ fault = .notConfig key := by
  -- the map behind the first key, which may be a new and empty one, answers for the rest
  induction path using path_induction generalizing t t' with
  | nil => exact absurd rfl hpath
  | last key => cases h
  | behind key rest hrest ih =>
    rw [editAt_cons hrest] at h
    split at h
    · rename_i hstop
      cases h
      exact ⟨[], key, stopsAt_first hstop, rfl⟩
    · rename_i sub hsub
      obtain ⟨herror, -⟩ := Prod.mk.inj h
      obtain ⟨before, found, hstops, rfl⟩ := ih hrest (Prod.ext herror rfl)
      exact ⟨key :: before, found, stopsAt_behind hsub hstops, rfl⟩

/-- A call of `set` on a tree that fails reports its whole path. -/
theorem error_of_set {v : Value} {e : Error} (hpath : path ≠ [])
    (h : t.set path v = (.error e, t')) :
    ∃ before key, Store.StopsAt t path before key ∧ e = .ofPath path (.notConfig key) := by
  obtain ⟨fault, herror, rfl⟩ := outcome_eq_error.mp h
  obtain ⟨before, key, hstops, rfl⟩ := stopsAt_of_editAt_error hpath herror
  exact ⟨before, key, hstops, rfl⟩

end Tree

namespace SortedTree

variable {s s' : SortedTree} {t : Tree} {path before : List String} {key : String} {v : Value}
  {e : Error}

theorem Agrees.stopsAt_iff (h : s.Agrees t) :
    Store.StopsAt s path before key ↔ Store.StopsAt t path before key := by
  constructor
  · rintro ⟨hleads, hobstructs, hshortest⟩
    exact ⟨hleads, h.getRaw _ ▸ hobstructs, fun e => h.getRaw e ▸ hshortest e⟩
  · rintro ⟨hleads, hobstructs, hshortest⟩
    exact ⟨hleads, (h.getRaw _).symm ▸ hobstructs, fun e => (h.getRaw e).symm ▸ hshortest e⟩

/-- Trees that show the same hold the same under every key. -/
theorem agrees_of_showSame (h : Store.ShowSame s t) : s.Agrees t :=
  fun key => Entry.of_injective (h [key]).1

/-- A call of `set` on a tree with sorted keys that fails reports its whole path where the first key
is in the way, and otherwise only what is behind that key. -/
theorem error_of_set (hpath : path ≠ []) (h : s.set path v = (.error e, s')) :
    ∃ before key, Store.StopsAt s path before key
      ∧ e = .ofPath (if before = [] then path else path.tail) (.notConfig key) := by
  induction path using path_induction with
  | nil => exact absurd rfl hpath
  | last key => cases h
  | behind key rest hrest _ =>
    -- no induction here: behind the first key it is a `Tree` that is asked for the rest
    have hagrees : s.Agrees ⟨s.entries, []⟩ := s.agrees_entries
    have hbelow : (s.withMap key).sub? key = Tree.below? ⟨s.entries, []⟩ key :=
      (hagrees.withMap key).sub? key
    rw [set_cons hrest, hbelow] at h
    split at h
    · rename_i hstop
      cases h
      exact ⟨[], key, hagrees.stopsAt_iff.mpr (Tree.stopsAt_first hstop), rfl⟩
    · rename_i sub hsub
      obtain ⟨herror, -⟩ := Prod.mk.inj h
      obtain ⟨before, found, hstops, rfl⟩ := Tree.error_of_set hrest (Prod.ext herror rfl)
      exact ⟨key :: before, found, hagrees.stopsAt_iff.mpr (Tree.stopsAt_behind hsub hstops), rfl⟩

end SortedTree

/-! ## Two trees, two reports -/

/-- Behind a key that is not in the way the path goes on. -/
theorem Store.StopsAt.rest_ne_nil {σ : Type} [Store σ] {s : σ} {first key : String}
    {rest before : List String} (h : Store.StopsAt s (first :: rest) before key)
    (hbefore : before ≠ []) : rest ≠ [] := by
  rintro rfl
  have hle := h.leads.length_le
  rw [List.length_append, List.length_singleton, List.length_singleton] at hle
  exact hbefore (List.length_eq_zero_iff.mp (by omega))

/-- The shortest prefix in the way is the only one. -/
theorem Store.StopsAt.unique {σ : Type} [Store σ] {s : σ} {path before before' : List String}
    {key key' : String} (h : Store.StopsAt s path before key)
    (h' : Store.StopsAt s path before' key') : before = before' ∧ key = key' := by
  -- neither of the two prefixes is shorter, and prefixes of one path with one length are the same
  have hle : before.length < (before' ++ [key']).length := h.shortest _ h'.leads h'.obstructs
  have hge : before'.length < (before ++ [key]).length := h'.shortest _ h.leads h.obstructs
  rw [List.length_append, List.length_singleton] at hle hge
  have hlength : (before ++ [key]).length = (before' ++ [key']).length := by
    rw [List.length_append, List.length_append, List.length_singleton, List.length_singleton]
    omega
  have hsame : before ++ [key] = before' ++ [key'] :=
    (List.prefix_of_prefix_length_le h.leads h'.leads (Nat.le_of_eq hlength)).eq_of_length hlength
  obtain ⟨hbefore, hkey⟩ := List.append_inj' hsame rfl
  exact ⟨hbefore, List.singleton_inj.mp hkey⟩

/-- Leaving out the first key of a path changes the error. -/
theorem Error.ofPath_tail_ne {key : String} {rest : List String} {fault fault' : PathFault}
    (hrest : rest ≠ []) : Error.ofPath rest fault ≠ Error.ofPath (key :: rest) fault' := by
  intro heq
  -- joined, the path is longer with the key than without, at least by the point
  obtain ⟨hjoined, -⟩ := Error.path.inj heq
  rw [String.intercalate_cons_of_ne_nil hrest] at hjoined
  have hpoint : ".".length = 1 := rfl
  have hlength := congrArg String.length hjoined
  rw [String.length_append, String.length_append, hpoint] at hlength
  omega

/-- A call of `set` that fails names the last key of the shortest prefix of its path that holds
something other than a map. A `Tree` reports the whole path. A tree with sorted keys reports it
where the first key is in the way, and otherwise leaves that key out; so of two trees that show the
same both fail, and with the same error exactly if the first key is in the way. -/
theorem Store.set_reports (path : List String) (hpath : path ≠ []) (v : Value) :
    (∀ (t t' : Tree) (e : Error), Store.set t path v = (.error e, t') → ∃ before key,
        Store.StopsAt t path before key ∧ e = .ofPath path (.notConfig key))
      ∧ (∀ (s s' : SortedTree) (e : Error), Store.set s path v = (.error e, s') → ∃ before key,
        Store.StopsAt s path before key
          ∧ e = .ofPath (if before = [] then path else path.tail) (.notConfig key))
      ∧ ∀ (s s' : SortedTree) (t : Tree) (e : Error), Store.ShowSame s t →
        Store.set s path v = (.error e, s') → ∃ e' t', Store.set t path v = (.error e', t')
          ∧ (e = e' ↔ ∃ key, Store.StopsAt s path [] key) := by
  refine ⟨fun t t' e h => Tree.error_of_set hpath h,
    fun s s' e h => SortedTree.error_of_set hpath h, fun s s' t e hsame h => ?_⟩
  have hagrees : s.Agrees t := SortedTree.agrees_of_showSame hsame
  obtain ⟨e', t', htree, -⟩ := hagrees.set_error h
  refine ⟨e', t', htree, ?_⟩
  obtain ⟨before, key, hstops, rfl⟩ := SortedTree.error_of_set hpath h
  obtain ⟨before', key', hstops', rfl⟩ := Tree.error_of_set hpath htree
  obtain ⟨rfl, rfl⟩ := hstops.unique (hagrees.stopsAt_iff.mpr hstops')
  constructor
  · intro heq
    by_cases hbefore : before = []
    · exact ⟨key, hbefore ▸ hstops⟩
    · rw [if_neg hbefore] at heq
      obtain ⟨first, rest, rfl⟩ := List.exists_cons_of_ne_nil hpath
      exact absurd heq (Error.ofPath_tail_ne (hstops.rest_ne_nil hbefore))
  · rintro ⟨other, hfirst⟩
    obtain ⟨rfl, -⟩ := hstops.unique hfirst
    rw [if_pos rfl]

namespace Example

/-- A tree in which a truth value stands two keys deep. -/
def nestedTree : Tree := ⟨[("a", .config ⟨[("b", .bool true)], []⟩)], []⟩

/-- The same with sorted keys. -/
def nestedSorted : SortedTree := ⟨nestedTree.entries, List.pairwise_singleton _ _⟩

theorem set_nestedTree : Store.set nestedTree ["a", "b", "c"] .null
    = (.error (.ofPath ["a", "b", "c"] (.notConfig "b")), nestedTree) := rfl

theorem set_nestedSorted : Store.set nestedSorted ["a", "b", "c"] .null
    = (.error (.ofPath ["b", "c"] (.notConfig "b")), nestedSorted) := rfl

/-- The truth value is in the way of a path through it; with sorted keys, the error leaves out
`a`. -/
theorem set_reports_nested :
    Store.ShowSame nestedSorted nestedTree
      ∧ (∃ before key, Store.StopsAt nestedTree ["a", "b", "c"] before key
        ∧ Error.ofPath ["a", "b", "c"] (.notConfig "b")
          = .ofPath ["a", "b", "c"] (.notConfig key))
      ∧ (∃ before key, Store.StopsAt nestedSorted ["a", "b", "c"] before key
        ∧ Error.ofPath ["b", "c"] (.notConfig "b")
          = .ofPath (if before = [] then ["a", "b", "c"] else ["b", "c"]) (.notConfig key))
      ∧ ∃ e' t', Store.set nestedTree ["a", "b", "c"] .null = (.error e', t')
        ∧ (Error.ofPath ["b", "c"] (.notConfig "b") = e'
          ↔ ∃ key, Store.StopsAt nestedSorted ["a", "b", "c"] [] key) := by
  have hsame : Store.ShowSame nestedSorted nestedTree := nestedSorted.agrees_entries.showSame
  obtain ⟨htree, hsorted, hboth⟩ :=
    Store.set_reports ["a", "b", "c"] (List.cons_ne_nil _ _) .null
  exact ⟨hsame, htree _ _ _ set_nestedTree, hsorted _ _ _ set_nestedSorted,
    hboth _ _ _ _ hsame set_nestedSorted⟩

/-- It is not so that every error about a path into a tree with sorted keys has the whole path. -/
theorem not_set_reports_whole_path :
    ¬ ∀ (s s' : SortedTree) (path : List String) (v : Value) (e : Error), path ≠ [] →
      Store.set s path v = (.error e, s') → ∃ before key,
        Store.StopsAt s path before key ∧ e = .ofPath path (.notConfig key) := by
  intro hwhole
  obtain ⟨_, _, -, heq⟩ :=
    hwhole nestedSorted nestedSorted ["a", "b", "c"] .null _ (List.cons_ne_nil _ _) set_nestedSorted
  exact Error.ofPath_tail_ne (List.cons_ne_nil _ _) heq

end Example

end ConfigBinding
