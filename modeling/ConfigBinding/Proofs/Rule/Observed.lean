import ConfigBinding.Proofs.Sequence
import ConfigBinding.Rule.Evaluation

/-!
# What rules see of a member

Rules ask three things about a member: whether it is null, whether it is empty, and which entry of a
tree it is. `Observation.ShowsNull`, `Observation.ShowsEmpty` and `Observation.ShowsEntry` say what
the answers are, for an entry that is read as well as for a datum that is written.

A datum may need its native form to answer, and then the question fails if that cannot be made. This
happens to every datum that is asked for its entry, unless it is null, but only to some data that
are asked whether they are empty: most know it by themselves (`Observation.EntryUnknown`,
`Observation.EmptinessUnknown`).
-/

namespace ConfigBinding

/-! ## Answers -/

/-- The step succeeds, and answers whether something holds. -/
def Result.Decides (r : Result Bool) (p : Prop) : Prop := ∃ b, r = .ok b ∧ (b = true ↔ p)

namespace Result.Decides

variable {r : Result Bool} {p : Prop}

theorem eq_true (h : r.Decides p) (hp : p) : r = .ok true := by
  obtain ⟨b, rfl, hb⟩ := h
  rw [hb.mpr hp]

theorem eq_false (h : r.Decides p) (hp : ¬ p) : r = .ok false := by
  obtain ⟨b, rfl, hb⟩ := h
  rw [Bool.eq_false_iff.mpr fun htrue => hp (hb.mp htrue)]

theorem eq_false_iff (h : r.Decides p) : r = .ok false ↔ ¬ p := by
  constructor
  · intro hfalse hp
    cases (h.eq_true hp).symm.trans hfalse
  · exact h.eq_false

/-- A question that does not fail is decided by what makes the answer yes. -/
theorem of_ne_error (hfails : ∀ e, r ≠ .error e) (htrue : r = .ok true ↔ p) : r.Decides p := by
  cases hr : r with
  | error e => exact absurd hr (hfails e)
  | ok b =>
    rw [hr, Except.ok.injEq] at htrue
    exact ⟨b, rfl, htrue⟩

/-- When each of some questions is decided, so is whether one of them holds. -/
theorem any {α : Type} {f : α → Result Bool} {q : α → Prop} {xs : List α}
    (h : ∀ x ∈ xs, (f x).Decides (q x)) :
    Decides (do let answers ← xs.mapM f; return answers.any id) (∃ x ∈ xs, q x) := by
  obtain ⟨answers, hanswers⟩ := exists_forall₂ h
  have hrun : xs.mapM f = .ok answers := Result.mapM_eq_ok.mpr (hanswers.imp fun _ _ h => h.1)
  refine ⟨answers.any id, Result.bind_eq_ok.mpr ⟨answers, hrun, rfl⟩, ?_⟩
  -- what is left is between the answers and the questions, one by one
  clear h hrun
  induction hanswers with
  | nil => simp
  | cons hx _ ih =>
    rw [List.any_cons, Bool.or_eq_true_iff, List.exists_mem_cons_iff, ← ih, ← hx.2, id]

end Result.Decides

/-! ## Values and entries -/

theorem Value.isNull_eq_true {v : Value} : v.isNull = true ↔ v = .null := by
  cases v <;> simp [isNull]

/-- There is a string, a list or a map, and nothing in it. Comments do not count. -/
inductive Value.IsEmpty : Value → Prop where
  | string : IsEmpty (.string "")
  | list : IsEmpty (.list [])
  | config (comments : List (String × String)) : IsEmpty (.config ⟨[], comments⟩)

theorem Value.isEmpty?_eq_true {v : Value} : v.isEmpty? = some true ↔ v.IsEmpty := by
  constructor
  · intro h
    cases v with
    | string s =>
      obtain rfl : s = "" := by simpa [isEmpty?] using h
      exact .string
    | list items =>
      obtain rfl : items = [] := by simpa [isEmpty?] using h
      exact .list
    | config t =>
      obtain ⟨entries, comments⟩ := t
      obtain rfl : entries = [] := by simpa [isEmpty?] using h
      exact .config comments
    | _ => cases h
  · intro h
    cases h <;> rfl

namespace Entry

variable {entry : Entry}

theorem isAbsent_eq_true : entry.isAbsent = true ↔ entry = .absent := by
  cases entry <;> simp [isAbsent]

theorem isNull_eq_true : entry.isNull = true ↔ entry = .null := by
  cases entry <;> simp [isNull]

theorem isEmpty_eq_true : entry.isEmpty = true ↔ ∃ v, entry = .present v ∧ v.IsEmpty := by
  cases entry with
  | present v =>
    show decide (v.isEmpty? = some true) = true ↔ _
    rw [decide_eq_true_iff, Value.isEmpty?_eq_true]
    constructor
    · exact fun h => ⟨v, rfl, h⟩
    · rintro ⟨_, ⟨⟩, h⟩
      exact h
  | _ => simp [isEmpty]

end Entry

/-! ## Observations -/

namespace Observation

/-- The member is null: its entry is the null marker, or its datum is null. -/
inductive ShowsNull : Observation → Prop where
  | entry : ShowsNull (.entry .null)
  | datum {empty : Option Bool} {native : Thunk (Result Value)} :
    ShowsNull (.datum true empty native)

/-- The member is empty. What is null is not. -/
inductive ShowsEmpty : Observation → Prop where
  | entry {v : Value} (h : v.IsEmpty) : ShowsEmpty (.entry (.present v))
  /-- The datum says so itself. -/
  | datum {native : Thunk (Result Value)} : ShowsEmpty (.datum false (some true) native)
  /-- The datum does not say, and its native form is empty. -/
  | native {native : Thunk (Result Value)} {v : Value} (hnative : native.get = .ok v)
    (h : v.IsEmpty) : ShowsEmpty (.datum false none native)

/-- The entry that the member is. A datum is one as if its native form had been stored. -/
inductive ShowsEntry : Observation → Entry → Prop where
  | entry {entry : Entry} : ShowsEntry (.entry entry) entry
  | null {empty : Option Bool} {native : Thunk (Result Value)} :
    ShowsEntry (.datum true empty native) .null
  | native {empty : Option Bool} {native : Thunk (Result Value)} {v : Value}
    (hnative : native.get = .ok v) : ShowsEntry (.datum false empty native) (.of (some v))

/-- Only the native form of the datum could tell whether it is empty, and cannot be made. -/
inductive EmptinessUnknown : Observation → Error → Prop where
  | native {native : Thunk (Result Value)} {e : Error} (hnative : native.get = .error e) :
    EmptinessUnknown (.datum false none native) e

/-- Only the native form of the datum could tell which entry it is, and cannot be made. -/
inductive EntryUnknown : Observation → Error → Prop where
  | native {empty : Option Bool} {native : Thunk (Result Value)} {e : Error}
    (hnative : native.get = .error e) : EntryUnknown (.datum false empty native) e

variable {seen : Observation} {e : Error}

theorem isAbsent_eq_true : seen.isAbsent = true ↔ seen = .entry .absent := by
  cases seen with
  | entry entry => simp [isAbsent, Entry.isAbsent_eq_true]
  | datum null empty native => simp [isAbsent]

theorem isNull_eq_true : seen.isNull = true ↔ seen.ShowsNull := by
  constructor
  · intro h
    cases seen with
    | entry entry =>
      obtain rfl := Entry.isNull_eq_true.mp h
      exact .entry
    | datum null empty native =>
      obtain rfl : null = true := h
      exact .datum
  · intro h
    cases h <;> rfl

theorem isEmpty_eq_true : seen.isEmpty = .ok true ↔ seen.ShowsEmpty := by
  constructor
  · intro h
    match seen, h with
    | .entry stored, h =>
      obtain ⟨v, rfl, hempty⟩ := Entry.isEmpty_eq_true.mp (Except.ok.inj h)
      exact .entry hempty
    | .datum false (some true) _, _ => exact .datum
    | .datum false none _, h =>
      obtain ⟨v, hnative, hempty⟩ := Result.map_eq_ok.mp h
      exact .native hnative (Value.isEmpty?_eq_true.mp (of_decide_eq_true hempty))
  · intro h
    cases h with
    | entry hempty => exact congrArg Except.ok (Entry.isEmpty_eq_true.mpr ⟨_, rfl, hempty⟩)
    | datum => rfl
    | native hnative hempty =>
      apply Result.map_eq_ok.mpr
      exact ⟨_, hnative, decide_eq_true (Value.isEmpty?_eq_true.mpr hempty)⟩

theorem isEmpty_eq_error : seen.isEmpty = .error e ↔ seen.EmptinessUnknown e := by
  constructor
  · intro h
    match seen, h with
    | .datum false none _, h => exact .native (Result.map_eq_error.mp h)
  · rintro ⟨hnative⟩
    exact Result.map_eq_error.mpr hnative

theorem toEntry_eq_ok {entry : Entry} : seen.toEntry = .ok entry ↔ seen.ShowsEntry entry := by
  constructor
  · intro h
    match seen, h with
    | .entry stored, h =>
      obtain rfl := Except.ok.inj h
      exact .entry
    | .datum true _ _, h =>
      obtain rfl := Except.ok.inj h
      exact .null
    | .datum false _ _, h =>
      obtain ⟨v, hnative, rfl⟩ := Result.map_eq_ok.mp h
      exact .native hnative
  · intro h
    cases h with
    | entry => rfl
    | null => rfl
    | native hnative => exact Result.map_eq_ok.mpr ⟨_, hnative, rfl⟩

theorem toEntry_eq_error : seen.toEntry = .error e ↔ seen.EntryUnknown e := by
  constructor
  · intro h
    match seen, h with
    | .datum false _ _, h => exact .native (Result.map_eq_error.mp h)
  · rintro ⟨hnative⟩
    exact Result.map_eq_error.mpr hnative

end Observation

end ConfigBinding
