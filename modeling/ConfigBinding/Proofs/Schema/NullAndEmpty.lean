import ConfigBinding.Proofs.Rule.Assertions
import ConfigBinding.Proofs.Schema.AlwaysSkipped
import ConfigBinding.Proofs.Schema.NativeForm

/-!
# Null and empty members

A member that is written can be judged by its datum, or by the value that the datum becomes, its
native form. Rules ask the datum where that can answer by itself, and a closure is shown the native
form as if it stood in a tree. So the two had better agree on what is null and what is empty. There
are two gaps:

* A datum that wraps the null marker does not say that it is null. The rules that ask for null do
  not see such a datum, but a closure does (`TypeTable.seesNative`).
* Some data do not know whether they are empty. The rules that ask for emptiness then look at the
  native form, but the assertion that a member is not empty does not. So it may hold of a member
  that is skipped because it is empty (`TypeTable.comparesEmptiness`).
-/

namespace ConfigBinding

/-! ## What rules see -/

namespace Observation

variable {d : Datum} {v : Value} {native : Thunk (Result Value)}

/-- Rules see that a datum is empty if its native form is, whether or not the datum knows. -/
theorem showsEmpty_ofDatum (h : d.ShapedAs v) (hnative : native.get = .ok v) :
    (ofDatum d native).ShowsEmpty ↔ v.IsEmpty := by
  unfold ofDatum
  constructor
  · intro hshows
    generalize hempty : d.isEmpty? = empty, d.isNull = null at hshows
    cases hshows with
    | datum => exact (h.isEmpty?_eq_true.mp hempty).1
    | native hv hshown =>
      obtain rfl := Except.ok.inj (hnative.symm.trans hv)
      exact hshown
  · intro hv
    rw [h.isNull_eq_false hv]
    by_cases hhides : d.HidesEmptiness
    · rw [hhides.isEmpty?_eq_none]
      exact .native hnative hv
    · rw [h.isEmpty?_eq_true.mpr ⟨hv, hhides⟩]
      exact .datum

/-- The question whether a datum with a native form is empty never fails. -/
theorem decides_isEmpty_ofDatum (h : d.ShapedAs v) (hnative : native.get = .ok v) :
    (ofDatum d native).isEmpty.Decides v.IsEmpty := by
  refine .of_ne_error (fun e he => ?_) (isEmpty_eq_true.trans (showsEmpty_ofDatum h hnative))
  obtain ⟨-, -, hfails⟩ := emptinessUnknown_ofDatum.mp (isEmpty_eq_error.mp he)
  cases hnative.symm.trans hfails

/-- A datum is shown as the entry that its native form makes. -/
theorem toEntry_ofDatum (h : d.ShapedAs v) (hnative : native.get = .ok v) :
    (ofDatum d native).toEntry = .ok (.of (some v)) := by
  rw [toEntry_eq_ok, ofDatum]
  cases hnull : d.isNull with
  | true =>
    obtain ⟨rfl, -⟩ := h.isNull_eq_true.mp hnull
    exact .null
  | false => exact .native hnative

/-- How rules judge a datum that is written, and that has a native form. -/
structure ShowsNative (seen : Observation) (d : Datum) (v : Value) : Prop where
  /-- A closure is shown the native form, as the entry that it would make in a tree. -/
  closures : ∀ (check : Check SkipPredicate) (closure : SkipPredicate) (object : Object)
    (scope : Scope),
    scope.resolve .skipPredicate Closure.skip? Closure.sharedSkip? check = .ok closure →
      (SkipIf.custom check).applies .writing seen object scope
        = .ok (closure object (.of (some v)))
  /-- The rules that skip what is empty go by the native form. -/
  skipsEmpty : ∀ (object : Object) (scope : Scope),
    (SkipIf.isEmpty.applies .writing seen object scope).Decides v.IsEmpty
  /-- So do the defaults for what is empty. -/
  replacesEmpty : (seen.triggers .isEmpty).Decides v.IsEmpty
  /-- The rules that skip what is null do not, if the null marker comes from something inside. -/
  skipsNull : ∀ (object : Object) (scope : Scope),
    (SkipIf.isNull.applies .writing seen object scope).Decides (v = .null ∧ ¬ d.Wraps)
  /-- The defaults for what is null do not either. -/
  replacesNull : (seen.triggers .isNull).Decides (v = .null ∧ ¬ d.Wraps)

theorem showsNative_ofDatum (h : d.ShapedAs v) (hnative : native.get = .ok v) :
    (ofDatum d native).ShowsNative d v where
  closures check closure object scope hresolve := by
    apply Result.bind_eq_ok.mpr
    exact ⟨closure, hresolve, Result.bind_eq_ok.mpr ⟨_, toEntry_ofDatum h hnative, rfl⟩⟩
  skipsEmpty _ _ := decides_isEmpty_ofDatum h hnative
  replacesEmpty := decides_isEmpty_ofDatum h hnative
  skipsNull _ _ := ⟨d.isNull, congrArg Except.ok (Bool.or_false _), h.isNull_eq_true⟩
  replacesNull := ⟨d.isNull, rfl, h.isNull_eq_true⟩

end Observation

/-- Rules judge the datum of a member by its native form, but they do not see that it is null if
the null marker comes from something inside. -/
theorem TypeTable.seesNative {ts : TypeTable} {m : Member MemberType} {o : Options} {x : Object}
    {v : Value} (hnative : (ts.codec m.type).toNative o (m.get x) = .ok v) :
    (m.observed x ((m.mapType ts.codec).ownNative o x)).ShowsNative (m.get x) v :=
  Observation.showsNative_ofDatum (shapedAs_of_toNative hnative)
    (Result.mapError_eq_ok.mpr hnative)

/-! ### Tickets

A ticket has a note, which is an optional value, and a detail, which describes itself.
-/

namespace Example

/-- The note of a ticket. -/
def note : Member MemberType :=
  ⟨"note", [], "note", .option .value, "Ticket", {}, ⟨"Ticket", []⟩⟩

/-- The detail of a ticket. -/
def detail : Member MemberType :=
  ⟨"detail", [], "detail", .described (.option .string), "Ticket", {}, ⟨"Ticket", []⟩⟩

/-- A ticket. -/
def ticket (note detail : Datum) : Object := ⟨"Ticket", [("note", note), ("detail", detail)]⟩

/-- What rules see of a member of a ticket that is written. -/
def seenIn (x : Object) (m : Member MemberType) : Observation :=
  m.observed x ((m.mapType (TypeTable.codec {})).ownNative {} x)

/-- The ticket that has a note and a detail, with nothing in them. -/
def blankTicket : Object :=
  ticket (.just (.value (.string ""))) (.described (.option .string) (.some (.string "")))

/-- A ticket whose note and detail become the null marker. -/
def nullTicket : Object := ticket (.just (.value .null)) (.described (.option .string) .none)

/-- Rules see that the note and the detail of a blank ticket are empty. -/
theorem seesNative_blankTicket :
    SkipIf.isEmpty.applies .writing (seenIn blankTicket note) blankTicket note.scope = .ok true
      ∧ SkipIf.isEmpty.applies .writing (seenIn blankTicket detail) blankTicket detail.scope
        = .ok true := by
  have hnote : (seenIn blankTicket note).ShowsNative _ (.string "") := TypeTable.seesNative rfl
  have hdetail : (seenIn blankTicket detail).ShowsNative _ (.string "") := TypeTable.seesNative rfl
  exact ⟨(hnote.skipsEmpty _ _).eq_true .string, (hdetail.skipsEmpty _ _).eq_true .string⟩

/-- The member of a ticket becomes the null marker, and a closure is shown that, but to the rules
for what is null it is not null. -/
structure HidesNull (x : Object) (m : Member MemberType) : Prop where
  native : (TypeTable.codec {} m.type).toNative {} (m.get x) = .ok .null
  shown : (SkipIf.custom (.inline fun _ entry => entry.isNull)).applies .writing (seenIn x m) x
    m.scope = .ok true
  skips : SkipIf.isNull.applies .writing (seenIn x m) x m.scope = .ok false
  replaces : (seenIn x m).triggers .isNull = .ok false

theorem nullTicket_hidesNull : HidesNull nullTicket note ∧ HidesNull nullTicket detail :=
  ⟨⟨rfl, rfl, rfl, rfl⟩, ⟨rfl, rfl, rfl, rfl⟩⟩

end Example

/-! ## The assertion that a member is not empty -/

namespace Observation

variable {d : Datum} {v : Value} {native : Thunk (Result Value)}

/-- How the assertion that a datum is not empty goes with the rules that ask whether it is null or
empty, when the datum is written and has a native form. -/
structure ComparesEmptiness (seen : Observation) (d : Datum) (v : Value) : Prop where
  /-- The rules that skip what is null, and the defaults for it, ask the same. -/
  null : ∀ (object : Object) (scope : Scope),
    SkipIf.isNull.applies .writing seen object scope = seen.triggers .isNull
  /-- So do the rules that skip what is empty, and the defaults for it. -/
  empty : ∀ (object : Object) (scope : Scope),
    SkipIf.isEmpty.applies .writing seen object scope = seen.triggers .isEmpty
  /-- The assertion holds exactly if the datum is neither null nor empty, if it can tell. -/
  agrees : (d.HidesEmptiness → ¬ v.IsEmpty) →
    ∀ (typeName : String) (object : Object) (scope : Scope),
      (AssertThat.notEmpty.holds typeName d object scope).Decides
        (seen.triggers .isNull = .ok false ∧ seen.triggers .isEmpty = .ok false)
  /-- If it cannot, the assertion holds even of what is empty. -/
  differs : d.HidesEmptiness → v.IsEmpty → seen.triggers .isEmpty = .ok true
    ∧ ∀ (typeName : String) (object : Object) (scope : Scope),
      AssertThat.notEmpty.holds typeName d object scope = .ok true

theorem comparesEmptiness_ofDatum (h : d.ShapedAs v) (hnative : native.get = .ok v) :
    (ofDatum d native).ComparesEmptiness d v where
  null _ _ := congrArg Except.ok (Bool.or_false _)
  empty _ _ := rfl
  agrees hknows typeName object scope := by
    have hsays : d.isEmpty? = some true ↔ v.IsEmpty :=
      h.isEmpty?_eq_true.trans (and_iff_left_of_imp fun hv hhides => hknows hhides hv)
    have hnull : (ofDatum d native).triggers .isNull = .ok false ↔ d.isNull = false :=
      ⟨Except.ok.inj, congrArg Except.ok⟩
    have hempty : (ofDatum d native).triggers .isEmpty = .ok false ↔ ¬ v.IsEmpty :=
      (decides_isEmpty_ofDatum h hnative).eq_false_iff
    refine .of_ne_error nofun ?_
    rw [AssertThat.holds_eq_true, AssertThat.met_notEmpty, hnull, hempty, ← hsays]
  differs hhides hempty := by
    refine ⟨(decides_isEmpty_ofDatum h hnative).eq_true hempty, fun typeName object scope => ?_⟩
    refine AssertThat.holds_eq_true.mpr (.notEmpty hhides.isNull_eq_false ?_)
    rw [hhides.isEmpty?_eq_none]
    exact nofun

end Observation

/-- The assertion that a member is not empty holds exactly if rules see its datum neither null nor
empty, unless the datum is empty and does not know. -/
theorem TypeTable.comparesEmptiness {ts : TypeTable} {m : Member MemberType} {o : Options}
    {x : Object} {v : Value} (hnative : (ts.codec m.type).toNative o (m.get x) = .ok v) :
    (m.observed x ((m.mapType ts.codec).ownNative o x)).ComparesEmptiness (m.get x) v :=
  Observation.comparesEmptiness_ofDatum (shapedAs_of_toNative hnative)
    (Result.mapError_eq_ok.mpr hnative)

namespace Example

/-- The blank note is empty to rules, and not accepted where it must not be empty. -/
theorem comparesEmptiness_note :
    (seenIn blankTicket note).triggers .isEmpty = .ok true
      ∧ AssertThat.notEmpty.holds note.type.name (note.get blankTicket) blankTicket note.scope
        = .ok false := by
  have hknows : ¬ (note.get blankTicket).HidesEmptiness := by
    intro hhides
    cases hhides with
    | just hvalue => cases hvalue
  have hcompares : (seenIn blankTicket note).ComparesEmptiness _ (.string "") :=
    TypeTable.comparesEmptiness rfl
  refine ⟨rfl, (hcompares.agrees (absurd · hknows) _ _ _).eq_false ?_⟩
  rintro ⟨-, hempty⟩
  cases hempty

/-- The blank detail is empty to rules, but accepted where it must not be empty. -/
theorem blankDetail_accepted :
    (TypeTable.codec {} detail.type).toNative {} (detail.get blankTicket) = .ok (.string "")
      ∧ SkipIf.isEmpty.applies .writing (seenIn blankTicket detail) blankTicket detail.scope
        = .ok true
      ∧ (seenIn blankTicket detail).triggers .isEmpty = .ok true
      ∧ AssertThat.notEmpty.holds detail.type.name (detail.get blankTicket) blankTicket detail.scope
        = .ok true :=
  ⟨rfl, rfl, rfl, rfl⟩

end Example

end ConfigBinding
