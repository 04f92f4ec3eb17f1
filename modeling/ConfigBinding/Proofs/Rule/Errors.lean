import ConfigBinding.Proofs.Rule.Observed

/-!
# What rules fail with

Asking the rules of a member can fail in two ways. The rules raise an error of their own, which
names the member (`Scope.Raises`), or they ask for the native form of the member's datum and it
cannot be made (`Observation.Raises`). Assertions are about data and never ask for a native form.
-/

namespace ConfigBinding

/-- The errors that rules raise themselves: a rule cannot be resolved, or an assertion does not
hold. -/
def Scope.Raises (scope : Scope) (e : Error) : Prop :=
  (∃ fault, e = scope.error fault)
    ∨ ∃ text, e = .assertion scope.member scope.declaringType text

theorem Scope.Raises.isFinal {scope : Scope} {e : Error} (h : scope.Raises e) :
    e.isFinal = true := by
  rcases h with ⟨fault, rfl⟩ | ⟨text, rfl⟩
  · rfl
  · rfl

/-- The error of making the native form that is looked at. -/
def Observation.Raises : Observation → Error → Prop
  | .entry _, _ => False
  | .datum _ _ native, e => native.get = .error e

/-- A closure that is not found is a rule that cannot be resolved. -/
theorem Scope.exists_fault_of_resolve {α : Type} {scope : Scope} {role : RuleRole}
    {own shared : Closure → Option α} {check : Check α} {e : Error}
    (h : scope.resolve role own shared check = .error e) : ∃ fault, e = scope.error fault := by
  cases check with
  | inline closure => cases h
  | unset => exact ⟨_, (Except.error.inj h).symm⟩
  | named name companion =>
    rw [resolve] at h
    split at h
    · cases h
    · split at h
      · cases h
      · exact ⟨_, (Except.error.inj h).symm⟩

theorem Scope.raises_of_resolve {α : Type} {scope : Scope} {role : RuleRole}
    {own shared : Closure → Option α} {check : Check α} {e : Error}
    (h : scope.resolve role own shared check = .error e) : scope.Raises e :=
  .inl (exists_fault_of_resolve h)

section Asking

variable {seen : Observation} {x : Object} {scope : Scope} {e : Error}

theorem Observation.raises_of_isEmpty (h : seen.isEmpty = .error e) : seen.Raises e := by
  obtain ⟨hnative⟩ := isEmpty_eq_error.mp h
  exact hnative

theorem Observation.raises_of_toEntry (h : seen.toEntry = .error e) : seen.Raises e := by
  obtain ⟨hnative⟩ := toEntry_eq_error.mp h
  exact hnative

theorem SkipIf.raises_of_applies {direction : Direction} {rule : SkipIf}
    (h : rule.applies direction seen x scope = .error e) : scope.Raises e ∨ seen.Raises e := by
  cases rule with
  | always | isMissing | isNull => cases h
  | isEmpty => exact .inr (Observation.raises_of_isEmpty h)
  | custom check =>
    rcases Result.bind_eq_error.mp h with hresolve | ⟨skips, -, h⟩
    · exact .inl (Scope.raises_of_resolve hresolve)
    · rcases Result.bind_eq_error.mp h with hentry | ⟨entry, -, h⟩
      · exact .inr (Observation.raises_of_toEntry hentry)
      · cases h

/-- Asking whether a member is skipped fails by a rule, or by the native form. -/
theorem MemberRules.raises_of_shouldSkip {r : MemberRules} {direction : Direction}
    (h : r.shouldSkip direction seen x scope = .error e) : scope.Raises e ∨ seen.Raises e := by
  rcases Result.bind_eq_error.mp h with hrules | ⟨applied, -, h⟩
  · obtain ⟨rule, -, hrule⟩ := Result.exists_of_mapM_eq_error hrules
    exact SkipIf.raises_of_applies hrule
  · cases h

theorem raises_of_anyApplies {triggers : List Trigger}
    (h : selectDefault.anyApplies seen triggers = .error e) : seen.Raises e := by
  induction triggers with
  | nil => cases h
  | cons trigger rest ih =>
    rw [selectDefault.anyApplies] at h
    rcases Result.bind_eq_error.mp h with htrigger | ⟨applies, -, h⟩
    · cases trigger with
      | isMissing | isNull => cases htrigger
      | isEmpty => exact Observation.raises_of_isEmpty htrigger
    · split at h
      · cases h
      · exact ih h

theorem raises_of_selectDefault {rules : List DefaultRule}
    (h : selectDefault seen rules = .error e) : seen.Raises e := by
  induction rules with
  | nil => cases h
  | cons rule rest ih =>
    rw [selectDefault] at h
    rcases Result.bind_eq_error.mp h with happlies | ⟨applies, -, h⟩
    · exact raises_of_anyApplies happlies
    · split at h
      · cases h
      · exact ih h

/-- Looking for a default fails by a rule, or by the native form. -/
theorem MemberRules.raises_of_findDefault {r : MemberRules} {typeName : String}
    (h : r.findDefault typeName seen x scope = .error e) : scope.Raises e ∨ seen.Raises e := by
  rcases Result.bind_eq_error.mp h with hselect | ⟨selected, -, h⟩
  · exact .inr (raises_of_selectDefault hselect)
  · cases selected with
    | none => cases h
    | some rule =>
      rcases Result.bind_eq_error.mp h with hresolve | ⟨provide, -, h⟩
      · exact .inl (Scope.raises_of_resolve hresolve)
      · cases h

/-- Checking the assertions fails by a rule. -/
theorem MemberRules.raises_of_checkAsserts {r : MemberRules} {typeName : String} {d : Datum}
    (h : r.checkAsserts typeName d x scope = .error e) : scope.Raises e := by
  obtain ⟨rule, -, hrule⟩ := Result.exists_of_forM_eq_error h
  rcases Result.bind_eq_error.mp hrule with hholds | ⟨holds, -, hrule⟩
  · cases rule with
    | notNull | notEmpty => cases hholds
    | custom check =>
      rcases Result.bind_eq_error.mp hholds with hresolve | ⟨closure, -, h⟩
      · exact Scope.raises_of_resolve hresolve
      · cases h
  · split at hrule
    · cases hrule
    · exact .inr ⟨_, (Except.error.inj hrule).symm⟩

end Asking

end ConfigBinding
