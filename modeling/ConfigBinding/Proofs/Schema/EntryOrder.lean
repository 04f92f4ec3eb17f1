import ConfigBinding.Proofs.Converter.Builtin
import ConfigBinding.Proofs.Schema.TwoRuns
import ConfigBinding.Tree.Sorted

/-!
# The order of entries

No program can rely on the order of a hashed map, and maps with the same entries are equal whatever
the order in which they hold them. So when two runs are compared, it has to be said whether that
order counts (`EntryOrder`).

Where it is free, the runs come to values that are the same but for the order of the entries of maps
inside (`Value.Rearranged`). Emptiness does not depend on it, and trees go along with it
(`Tree.follows_rearranged`). A converter of the caller's own may look at it, so the registry has to
be one that does not (`Registry.IgnoresOrder`).
-/

namespace ConfigBinding

/-- Whether it counts in which order maps hold their entries. -/
inductive EntryOrder where
  | counts
  | free

/-- The second list is the first one, perhaps in another order if that is free. -/
def EntryOrder.Allows {α : Type} (order : EntryOrder) (xs ys : List α) : Prop :=
  xs = ys ∨ order = .free ∧ xs.Perm ys

variable {order : EntryOrder}

theorem EntryOrder.Allows.perm {α : Type} {xs ys : List α} (h : order.Allows xs ys) :
    xs.Perm ys := by
  rcases h with rfl | ⟨-, hperm⟩
  · exact .refl xs
  · exact hperm

/-! ## Values -/

/-- The values are the same, but for the order of the entries of maps inside, if that is free. -/
inductive Value.Rearranged (order : EntryOrder) : Value → Value → Prop where
  | same (v : Value) : Rearranged order v v
  | list {vs ws : List Value} (hlength : vs.length = ws.length)
    (h : ∀ p ∈ vs.zip ws, Rearranged order p.1 p.2) : Rearranged order (.list vs) (.list ws)
  /-- The entries are put into another order, and then compared one by one. -/
  | config {entries arranged entries' : List (String × Value)} {comments : List (String × String)}
    (horder : order.Allows entries arranged) (hkeys : Keyed.keys arranged = Keyed.keys entries')
    (h : ∀ p ∈ arranged.zip entries', Rearranged order p.1.2 p.2.2) :
    Rearranged order (.config ⟨entries, comments⟩) (.config ⟨entries', comments⟩)

namespace Value.Rearranged

variable {v w : Value} {vs ws : List Value} {entries arranged entries' : List (String × Value)}

/-- Lists are rearranged item by item, since the order of items counts. -/
theorem list_iff : (Value.list vs).Rearranged order (.list ws)
    ↔ List.Forall₂ (Rearranged order) vs ws := by
  constructor
  · intro h
    cases h with
    | same => exact List.forall₂_same.mpr fun v _ => .same v
    | list hlength h => exact List.forall₂_iff_zip.mpr ⟨hlength, fun {v w} hp => h (v, w) hp⟩
  · intro h
    obtain ⟨hlength, hitems⟩ := List.forall₂_iff_zip.mp h
    exact .list hlength fun p hp => hitems hp

theorem config_of_forall₂ (horder : order.Allows entries arranged)
    (h : List.Forall₂ (fun p q => p.1 = q.1 ∧ p.2.Rearranged order q.2) arranged entries')
    (comments : List (String × String)) :
    (Value.config ⟨entries, comments⟩).Rearranged order (.config ⟨entries', comments⟩) := by
  obtain ⟨hkeys, hvalues⟩ := forall₂_values_iff.mp h
  exact .config horder hkeys hvalues

theorem isEmpty?_eq (h : v.Rearranged order w) : v.isEmpty? = w.isEmpty? := by
  cases h with
  | same => rfl
  | list hlength => exact congrArg some (isEmpty_eq_of_length_eq hlength)
  | config horder hkeys h =>
    have hlength := horder.perm.length_eq.trans (forall₂_values_iff.mpr ⟨hkeys, h⟩).length_eq
    exact congrArg some (isEmpty_eq_of_length_eq hlength)

/-- Where the order counts, nothing is rearranged. -/
theorem eq (h : v.Rearranged .counts w) : v = w := by
  induction h with
  | same => rfl
  | list hlength _ ih =>
    have hitems := List.forall₂_iff_zip.mpr ⟨hlength, fun {v w} hp => ih (v, w) hp⟩
    rw [List.forall₂_eq_eq_eq] at hitems
    rw [hitems]
  | config horder hkeys _ ih =>
    obtain rfl | ⟨⟨⟩, -⟩ := horder
    rw [forall₂_values_eq_iff.mp (forall₂_values_iff.mpr ⟨hkeys, ih⟩)]

end Value.Rearranged

/-! ## Converters -/

/-- The trees have the same keys and comments in the same order, and under each key values that are
the same but for the order of the entries of maps inside. -/
structure Tree.Rearranged (order : EntryOrder) (t u : Tree) : Prop where
  entries : List.Forall₂ (fun p q => p.1 = q.1 ∧ p.2.Rearranged order q.2) t.entries u.entries
  comments : t.comments = u.comments

theorem Tree.Rearranged.refl (order : EntryOrder) (t : Tree) : t.Rearranged order t :=
  ⟨List.forall₂_same.mpr fun p _ => ⟨rfl, .same p.2⟩, rfl⟩

theorem Tree.Rearranged.config {t u : Tree} (h : t.Rearranged order u) :
    (Value.config t).Rearranged order (.config u) := by
  obtain ⟨entries, comments⟩ := t
  obtain ⟨entries', _⟩ := u
  obtain ⟨hentries, rfl⟩ := h
  exact Value.Rearranged.config_of_forall₂ (.inl rfl) hentries comments

/-- The sorted trees have the same keys, and under each key values that are the same but for the
order of the entries of maps inside. -/
def SortedTree.Rearranged (order : EntryOrder) (t u : SortedTree) : Prop :=
  List.Forall₂ (fun p q => p.1 = q.1 ∧ p.2.Rearranged order q.2) t.entries u.entries

theorem SortedTree.Rearranged.refl (order : EntryOrder) (t : SortedTree) : t.Rearranged order t :=
  List.forall₂_same.mpr fun p _ => ⟨rfl, .same p.2⟩

end ConfigBinding
