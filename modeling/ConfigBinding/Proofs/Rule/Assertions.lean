import ConfigBinding.Proofs.Sequence
import ConfigBinding.Rule.Evaluation

/-!
# What assertions ask for

`AssertThat.Met` says what an assertion asks of a datum, without the order in which assertions are
looked at and without errors. The check of all assertions of a member succeeds exactly when each of
them is met (`MemberRules.checkAsserts_eq_ok`).
-/

namespace ConfigBinding

/-- What an assertion asks of a datum of a type, in an object. -/
inductive AssertThat.Met (typeName : String) (d : Datum) (object : Object) (scope : Scope) :
    AssertThat → Prop where
  | notNull (hnull : d.isNull = false) : Met typeName d object scope .notNull
  /-- Data of a kind that cannot be empty are not. -/
  | notEmpty (hnull : d.isNull = false) (hempty : d.isEmpty? ≠ some true) :
    Met typeName d object scope .notEmpty
  /-- The closure is found, and it accepts the datum in this object. -/
  | custom {check : Check Assertion} {closure : Assertion}
    (hresolve : scope.resolve .assertion (Closure.assertion? typeName)
      (Closure.sharedAssertion? typeName) check = .ok closure)
    (haccepts : closure object d = true) : Met typeName d object scope (.custom check)

section Check

variable {typeName : String} {d : Datum} {object : Object} {scope : Scope}

theorem AssertThat.holds_eq_true {rule : AssertThat} :
    rule.holds typeName d object scope = .ok true ↔ rule.Met typeName d object scope := by
  constructor
  · intro h
    cases rule with
    | notNull => exact .notNull (by simpa [holds] using h)
    | notEmpty =>
      obtain ⟨hnull, hempty⟩ : d.isNull = false ∧ d.isEmpty? ≠ some true := by
        simpa [holds] using h
      exact .notEmpty hnull hempty
    | custom check =>
      obtain ⟨closure, hresolve, h⟩ := Result.bind_eq_ok.mp h
      exact .custom hresolve (Except.ok.inj h)
  · intro h
    cases h with
    | notNull hnull => simp [holds, hnull]
    | notEmpty hnull hempty => simp [holds, hnull, hempty]
    | custom hresolve haccepts => exact Result.bind_eq_ok.mpr ⟨_, hresolve, congrArg _ haccepts⟩

theorem AssertThat.met_notEmpty : AssertThat.notEmpty.Met typeName d object scope
    ↔ d.isNull = false ∧ d.isEmpty? ≠ some true := by
  constructor
  · rintro ⟨⟩
    exact ⟨‹_›, ‹_›⟩
  · rintro ⟨hnull, hempty⟩
    exact .notEmpty hnull hempty

/-- The check succeeds exactly when every assertion of each block is met. -/
theorem MemberRules.checkAsserts_eq_ok {r : MemberRules} :
    r.checkAsserts typeName d object scope = .ok ()
      ↔ ∀ block ∈ r.blocks, ∀ rule ∈ block.asserts, rule.Met typeName d object scope := by
  have hstep : ∀ rule : AssertThat, (do
      if ← rule.holds typeName d object scope then pure ()
      else throw (.assertion scope.member scope.declaringType d.inspect) : Result Unit) = .ok ()
      ↔ rule.Met typeName d object scope := by
    intro rule
    rw [← AssertThat.holds_eq_true, Result.bind_eq_ok]
    constructor
    · rintro ⟨holds, hholds, h⟩
      cases holds with
      | true => exact hholds
      | false => cases h
    · intro hholds
      exact ⟨true, hholds, rfl⟩
  rw [checkAsserts, Result.forM_eq_ok]
  simp only [hstep, asserts, List.mem_flatMap]
  exact ⟨fun h block hblock rule hrule => h rule ⟨block, hblock, hrule⟩,
    fun h rule ⟨block, hblock, hrule⟩ => h block hblock rule hrule⟩

end Check

end ConfigBinding
