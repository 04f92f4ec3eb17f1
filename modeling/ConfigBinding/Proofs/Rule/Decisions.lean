import ConfigBinding.Proofs.Rule.DefaultSelection
import ConfigBinding.Proofs.Rule.SkipDecision

/-!
# Which entries skip rules and defaults apply to

`SkipIf.Matches` and `Trigger.Matches` say of each condition which entries it applies to when a
member is read. The two do not agree on entries that are missing: for skipping they count as null,
for defaults they do not.

What the rules decide is then a matter of look-up: a member is skipped when one of its skip rules
matches, provided that all closures are found (`MemberRules.decides_shouldSkip_entry`), and the
default that applies is the first one that is triggered (`selectDefault_entry_eq_some`,
`selectDefault_entry_eq_none`).
-/

namespace ConfigBinding

/-! ## Skip rules -/

/-- The entries of a member, in an object, that a condition for skipping applies to when the member
is read. -/
inductive SkipIf.Matches (entry : Entry) (object : Object) (scope : Scope) : SkipIf → Prop where
  | always : Matches entry object scope .always
  | isMissing (h : entry = .absent) : Matches entry object scope .isMissing
  /-- A missing entry counts as null. -/
  | isNull (h : entry = .null ∨ entry = .absent) : Matches entry object scope .isNull
  | isEmpty {v : Value} (h : entry = .present v) (hempty : v.IsEmpty) :
    Matches entry object scope .isEmpty
  /-- The closure is found, and it says so of the entry in this object. -/
  | custom {check : Check SkipPredicate} {closure : SkipPredicate}
    (hresolve : scope.resolve .skipPredicate Closure.skip? Closure.sharedSkip? check = .ok closure)
    (hskips : closure object entry = true) : Matches entry object scope (.custom check)

section Skips

variable {entry : Entry} {object : Object} {scope : Scope}

/-- What applies to an entry when it is read. -/
theorem SkipIf.matches_iff {rule : SkipIf} : rule.Matches entry object scope
    ↔ rule.AppliesTo .reading (.entry entry) object scope := by
  constructor
  · intro h
    cases h with
    | always => exact .always
    | isMissing h => exact .isMissing (congrArg _ h)
    | isNull h =>
      rcases h with rfl | rfl
      · exact .isNull .entry
      · exact .isNullMissing rfl rfl
    | isEmpty h hempty => exact .isEmpty (h ▸ .entry hempty)
    | custom hresolve hskips => exact .custom hresolve .entry hskips
  · intro h
    cases h with
    | always => exact .always
    | isMissing h => exact .isMissing (Observation.entry.inj h)
    | isNull h =>
      cases h
      exact .isNull (.inl rfl)
    | isNullMissing _ h => exact .isNull (.inr (Observation.entry.inj h))
    | isEmpty h =>
      cases h with
      | entry hempty => exact .isEmpty rfl hempty
    | custom hresolve hentry hskips =>
      cases hentry
      exact .custom hresolve hskips

/-- An entry is there to be looked at, so only a closure that is not found makes a rule fail. -/
theorem SkipIf.not_failsWith_entry {rule : SkipIf} {e : Error}
    (hrule : ∀ check, rule = .custom check → ∃ closure,
      scope.resolve .skipPredicate Closure.skip? Closure.sharedSkip? check = .ok closure) :
    ¬ rule.FailsWith (.entry entry) scope e := by
  intro hfails
  cases hfails with
  | isEmpty h => cases h
  | unresolved h =>
    obtain ⟨closure, hresolve⟩ := hrule _ rfl
    cases h.symm.trans hresolve
  | entry _ h => cases h

/-- Whether a member is skipped when it is read can be told if all closures are found: it is if one
of the rules matches. -/
theorem MemberRules.decides_shouldSkip_entry {r : MemberRules}
    (hskips : ∀ check, .custom check ∈ r.skipRules .reading → ∃ closure,
      scope.resolve .skipPredicate Closure.skip? Closure.sharedSkip? check = .ok closure) :
    (r.shouldSkip .reading (.entry entry) object scope).Decides
      (∃ rule ∈ r.skipRules .reading, rule.Matches entry object scope) := by
  simp only [SkipIf.matches_iff]
  apply decides_shouldSkip
  intro rule hrule e
  apply SkipIf.not_failsWith_entry
  rintro check rfl
  exact hskips check hrule

end Skips

/-! ## Defaults -/

/-- The entries that make a default apply. -/
inductive Trigger.Matches : Trigger → Entry → Prop where
  | isMissing : Matches .isMissing .absent
  | isNull : Matches .isNull .null
  | isEmpty {v : Value} (h : v.IsEmpty) : Matches .isEmpty (.present v)

/-- The entry makes the default apply. -/
def DefaultRule.IsTriggered (rule : DefaultRule) (entry : Entry) : Prop :=
  ∃ t ∈ rule.triggers, t.Matches entry

/-- The first default that an entry makes apply. -/
def FirstTriggered (rules : List DefaultRule) (entry : Entry) (rule : DefaultRule) : Prop :=
  ∃ before after, rules = before ++ rule :: after ∧ rule.IsTriggered entry
    ∧ ∀ earlier ∈ before, ¬ earlier.IsTriggered entry

section Defaults

variable {entry : Entry} {rules : List DefaultRule}

/-- A trigger of an entry can always be evaluated. -/
theorem Observation.exists_triggers_entry (entry : Entry) (t : Trigger) :
    ∃ answer, (Observation.entry entry).triggers t = .ok answer := by
  cases t <;> exact ⟨_, rfl⟩

theorem Trigger.matches_iff {t : Trigger} : t.Matches entry ↔ t.AppliesTo (.entry entry) := by
  constructor
  · rintro (_ | _ | hempty)
    · exact .isMissing rfl
    · exact .isNull .entry
    · exact .isEmpty (.entry hempty)
  · rintro (habsent | hnull | hempty)
    · obtain rfl := Observation.entry.inj habsent
      exact .isMissing
    · cases hnull
      exact .isNull
    · cases hempty with
      | entry hempty => exact .isEmpty hempty

theorem DefaultRule.isTriggered_iff {rule : DefaultRule} :
    rule.IsTriggered entry ↔ rule.AppliesTo (.entry entry) := by
  simp only [IsTriggered, AppliesTo, Trigger.matches_iff]

theorem firstTriggered_iff {rule : DefaultRule} :
    FirstTriggered rules entry rule ↔ FirstToApply rules (.entry entry) rule := by
  simp only [FirstTriggered, FirstToApply, DefaultRule.isTriggered_iff]

theorem selectDefault_entry_eq_some {rule : DefaultRule} :
    selectDefault (.entry entry) rules = .ok (some rule) ↔ FirstTriggered rules entry rule := by
  rw [firstTriggered_iff]
  exact selectDefault_eq_some fun t _ => Observation.exists_triggers_entry entry t

theorem selectDefault_entry_eq_none : selectDefault (.entry entry) rules = .ok none
    ↔ ∀ rule ∈ rules, ¬ rule.IsTriggered entry := by
  simp only [DefaultRule.isTriggered_iff]
  exact selectDefault_eq_none fun t _ => Observation.exists_triggers_entry entry t

end Defaults

end ConfigBinding
