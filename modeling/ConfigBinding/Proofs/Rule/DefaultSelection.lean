import ConfigBinding.Proofs.Rule.Errors

/-!
# Which default is taken

A default applies when one of its triggers does (`DefaultRule.AppliesTo`). Of the defaults that apply
the first one is taken (`FirstToApply`); those of the consolidated block come first.

The search goes through the triggers of all defaults, and stops at the first one that applies
(`Reached`). Only those that it reaches can make it fail, and of all providers only the one of the
default that is taken is looked up. So nothing behind the default that is taken matters, and of those
before it only the triggers do (`MemberRules.selectsDefault`).
-/

namespace ConfigBinding

/-! ## Triggers -/

/-- What makes a default apply. Other than for skipping, a missing entry does not count as null. -/
inductive Trigger.AppliesTo (seen : Observation) : Trigger → Prop where
  | isMissing (h : seen = .entry .absent) : AppliesTo seen .isMissing
  | isNull (h : seen.ShowsNull) : AppliesTo seen .isNull
  | isEmpty (h : seen.ShowsEmpty) : AppliesTo seen .isEmpty

/-- The search for a trigger that applies comes to this one: none before it does. -/
def Reached (seen : Observation) (triggers : List Trigger) (t : Trigger) : Prop :=
  ∃ before after, triggers = before ++ t :: after ∧ ∀ earlier ∈ before, ¬ earlier.AppliesTo seen

section Triggers

variable {seen : Observation} {t t' : Trigger} {triggers front back : List Trigger}

theorem Observation.triggers_eq_true : seen.triggers t = .ok true ↔ t.AppliesTo seen := by
  constructor
  · intro h
    cases t with
    | isMissing => exact .isMissing (isAbsent_eq_true.mp (Except.ok.inj h))
    | isNull => exact .isNull (isNull_eq_true.mp (Except.ok.inj h))
    | isEmpty => exact .isEmpty (isEmpty_eq_true.mp h)
  · rintro (h | h | h)
    · exact congrArg Except.ok (isAbsent_eq_true.mpr h)
    · exact congrArg Except.ok (isNull_eq_true.mpr h)
    · exact isEmpty_eq_true.mpr h

theorem Observation.not_appliesTo_of_triggers (h : seen.triggers t = .ok false) :
    ¬ t.AppliesTo seen := by
  intro happlies
  cases h.symm.trans (triggers_eq_true.mpr happlies)

namespace Reached

theorem head : Reached seen (t :: triggers) t := ⟨[], triggers, rfl, nofun⟩

theorem cons (ht' : ¬ t'.AppliesTo seen) (h : Reached seen triggers t) :
    Reached seen (t' :: triggers) t := by
  obtain ⟨before, after, rfl, hbefore⟩ := h
  exact ⟨t' :: before, after, rfl, List.forall_mem_cons.mpr ⟨ht', hbefore⟩⟩

theorem eq_or_of_cons (h : Reached seen (t' :: triggers) t) :
    t = t' ∨ ¬ t'.AppliesTo seen ∧ Reached seen triggers t := by
  obtain ⟨before, after, hsplit, hbefore⟩ := h
  rcases List.cons_eq_append_iff.mp hsplit with ⟨-, hhead⟩ | ⟨before', rfl, htail⟩
  · exact .inl (List.cons.inj hhead).1
  · obtain ⟨ht', hrest⟩ := List.forall_mem_cons.mp hbefore
    exact .inr ⟨ht', before', after, htail, hrest⟩

theorem append (h : Reached seen front t) : Reached seen (front ++ back) t := by
  obtain ⟨before, after, rfl, hbefore⟩ := h
  exact ⟨before, after ++ back, by simp, hbefore⟩

theorem append_of_none (hfront : ∀ t ∈ front, ¬ t.AppliesTo seen) (h : Reached seen back t) :
    Reached seen (front ++ back) t := by
  induction front with
  | nil => exact h
  | cons t' rest ih =>
    obtain ⟨ht', hrest⟩ := List.forall_mem_cons.mp hfront
    exact (ih hrest).cons ht'

theorem or_of_append (h : Reached seen (front ++ back) t) :
    Reached seen front t ∨ (∀ t ∈ front, ¬ t.AppliesTo seen) ∧ Reached seen back t := by
  induction front with
  | nil => exact .inr ⟨nofun, h⟩
  | cons t' rest ih =>
    rcases h.eq_or_of_cons with rfl | ⟨ht', h⟩
    · exact .inl head
    · rcases ih h with hfront | ⟨hrest, hback⟩
      · exact .inl (hfront.cons ht')
      · exact .inr ⟨List.forall_mem_cons.mpr ⟨ht', hrest⟩, hback⟩

/-- The search does not get behind triggers of which one applies. -/
theorem exchange {back' : List Trigger} (hfront : ∃ t ∈ front, t.AppliesTo seen)
    (h : Reached seen (front ++ back) t) : Reached seen (front ++ back') t := by
  rcases h.or_of_append with h | ⟨hnone, -⟩
  · exact h.append
  · obtain ⟨t', ht', happlies⟩ := hfront
    exact absurd happlies (hnone t' ht')

end Reached

theorem decides_anyApplies
    (h : ∀ t, Reached seen triggers t → ∃ answer, seen.triggers t = .ok answer) :
    (selectDefault.anyApplies seen triggers).Decides (∃ t ∈ triggers, t.AppliesTo seen) := by
  induction triggers with
  | nil => exact ⟨false, rfl, iff_of_false Bool.false_ne_true nofun⟩
  | cons t rest ih =>
    obtain ⟨answer, ht⟩ := h t .head
    rw [selectDefault.anyApplies, ht, List.exists_mem_cons_iff]
    cases answer with
    | true => exact ⟨true, rfl, iff_of_true rfl (.inl (Observation.triggers_eq_true.mp ht))⟩
    | false =>
      have hnot := Observation.not_appliesTo_of_triggers ht
      rw [or_iff_right hnot]
      exact ih fun t' ht' => h t' (ht'.cons hnot)

end Triggers

/-! ## Defaults -/

/-- The default applies: one of its triggers does. -/
def DefaultRule.AppliesTo (rule : DefaultRule) (seen : Observation) : Prop :=
  ∃ t ∈ rule.triggers, t.AppliesTo seen

/-- The first of some defaults that applies. -/
def FirstToApply (rules : List DefaultRule) (seen : Observation) (rule : DefaultRule) : Prop :=
  ∃ before after, rules = before ++ rule :: after ∧ rule.AppliesTo seen
    ∧ ∀ earlier ∈ before, ¬ earlier.AppliesTo seen

/-- The provider of a default for a member of a type. -/
def DefaultRule.resolve (rule : DefaultRule) (typeName : String) (scope : Scope) :
    Result Provider :=
  scope.resolve .defaultProvider (Closure.provider? typeName) (Closure.sharedProvider? typeName)
    rule.provider

section Defaults

variable {seen : Observation} {rule rule' : DefaultRule} {rules : List DefaultRule}

open Classical in
theorem firstToApply_iff_find? : FirstToApply rules seen rule
    ↔ rules.find? (fun rule => decide (rule.AppliesTo seen)) = some rule := by
  rw [List.find?_eq_some_iff_append, decide_eq_true_iff]
  constructor
  · rintro ⟨before, after, hsplit, happlies, hbefore⟩
    exact ⟨happlies, before, after, hsplit, by simpa using hbefore⟩
  · rintro ⟨happlies, before, after, hsplit, hbefore⟩
    exact ⟨before, after, hsplit, happlies, by simpa using hbefore⟩

theorem FirstToApply.unique (h : FirstToApply rules seen rule)
    (h' : FirstToApply rules seen rule') : rule = rule' := by
  rw [firstToApply_iff_find?] at h h'
  exact Option.some.inj (h.symm.trans h')

theorem FirstToApply.not_none (h : FirstToApply rules seen rule) :
    ¬ ∀ rule ∈ rules, ¬ rule.AppliesTo seen := by
  obtain ⟨before, after, rfl, happlies, -⟩ := h
  exact fun hnone => hnone rule (List.mem_append_right before List.mem_cons_self) happlies

/-- The search for a default answers whenever every trigger that it reaches does: it finds the first
default that applies, or that none does. -/
theorem selectDefault_cases
    (h : ∀ t, Reached seen (rules.flatMap (·.triggers)) t → ∃ answer, seen.triggers t = .ok answer) :
    (selectDefault seen rules = .ok none ∧ ∀ rule ∈ rules, ¬ rule.AppliesTo seen)
      ∨ ∃ rule, selectDefault seen rules = .ok (some rule) ∧ FirstToApply rules seen rule := by
  induction rules with
  | nil => exact .inl ⟨rfl, nofun⟩
  | cons rule rest ih =>
    have hrule : (selectDefault.anyApplies seen rule.triggers).Decides (rule.AppliesTo seen) :=
      decides_anyApplies fun t ht => h t ht.append
    rw [selectDefault]
    by_cases happlies : rule.AppliesTo seen
    · rw [hrule.eq_true happlies]
      exact .inr ⟨rule, rfl, [], rest, rfl, happlies, nofun⟩
    · rw [hrule.eq_false happlies]
      have hnone : ∀ t ∈ rule.triggers, ¬ t.AppliesTo seen :=
        fun t ht htapplies => happlies ⟨t, ht, htapplies⟩
      rcases ih fun t ht => h t (ht.append_of_none hnone) with
        ⟨hselect, hrest⟩ | ⟨found, hselect, before, after, rfl, hfound, hbefore⟩
      · exact .inl ⟨hselect, List.forall_mem_cons.mpr ⟨happlies, hrest⟩⟩
      · exact .inr ⟨found, hselect, rule :: before, after, rfl, hfound,
          List.forall_mem_cons.mpr ⟨happlies, hbefore⟩⟩

section Answered

variable
  (h : ∀ t, Reached seen (rules.flatMap (·.triggers)) t → ∃ answer, seen.triggers t = .ok answer)
include h

theorem selectDefault_eq_none :
    selectDefault seen rules = .ok none ↔ ∀ rule ∈ rules, ¬ rule.AppliesTo seen := by
  rcases selectDefault_cases h with ⟨hselect, hnone⟩ | ⟨found, hselect, hfirst⟩
  · exact iff_of_true hselect hnone
  · exact iff_of_false (by simp [hselect]) hfirst.not_none

theorem selectDefault_eq_some :
    selectDefault seen rules = .ok (some rule) ↔ FirstToApply rules seen rule := by
  rcases selectDefault_cases h with ⟨hselect, hnone⟩ | ⟨found, hselect, hfirst⟩
  · exact iff_of_false (by simp [hselect]) fun hfirst => hfirst.not_none hnone
  · rw [hselect, Except.ok.injEq, Option.some.injEq]
    constructor
    · rintro rfl
      exact hfirst
    · intro hrule
      exact hfirst.unique hrule

end Answered

end Defaults

/-! ## The rules of a member -/

namespace MemberRules

/-- The defaults in the order in which they are asked: those of the consolidated block come before
the standalone ones. -/
def rankedDefaults (r : MemberRules) : List DefaultRule :=
  (r.consolidated.getD {}).defaults ++ r.standalone.defaults

/-- Every trigger that the search for a default reaches can be evaluated. -/
def EvaluatesTriggers (r : MemberRules) (seen : Observation) : Prop :=
  ∀ t, Reached seen (r.rankedDefaults.flatMap (·.triggers)) t
    → ∃ answer, seen.triggers t = .ok answer

/-- How the default of a member is found. -/
structure SelectsDefault (r : MemberRules) (typeName : String) (seen : Observation)
    (object : Object) (scope : Scope) : Prop where
  /-- There is none exactly if no default applies. -/
  none : r.findDefault typeName seen object scope = .ok none
    ↔ ∀ rule ∈ r.rankedDefaults, ¬ rule.AppliesTo seen
  /-- Otherwise the provider of the first default that applies gives the datum. -/
  provided : ∀ rule provide, FirstToApply r.rankedDefaults seen rule
    → rule.resolve typeName scope = .ok provide
    → r.findDefault typeName seen object scope = .ok (some (provide object))
  /-- If that provider is not found, no other default is tried. -/
  broken : ∀ rule e, FirstToApply r.rankedDefaults seen rule
    → rule.resolve typeName scope = .error e
    → r.findDefault typeName seen object scope = .error e
      ∧ ∃ fault, e = .ruleResolution scope.member scope.declaringType fault
  /-- All other providers may be different, and be found or not. Of the defaults before the first
  one that applies only the triggers matter, and what is behind it does not matter at all. -/
  othersUnasked : ∀ before rule after, r.rankedDefaults = before ++ rule :: after
    → rule.AppliesTo seen → (∀ earlier ∈ before, ¬ earlier.AppliesTo seen)
    → ∀ (r' : MemberRules) (scope' : Scope) (before' after' : List DefaultRule),
      r'.rankedDefaults = before' ++ rule :: after'
      → before'.map (·.triggers) = before.map (·.triggers)
      → rule.resolve typeName scope' = rule.resolve typeName scope
      → r'.findDefault typeName seen object scope' = r.findDefault typeName seen object scope
  /-- A datum that is written is never missing, so a default for missing entries alone does not come
  into play. -/
  missingUnused : ∀ null empty native, seen = .datum null empty native
    → ∀ rule : DefaultRule, (∀ t ∈ rule.triggers, t = .isMissing)
    → ¬ FirstToApply r.rankedDefaults seen rule

section Members

variable {r : MemberRules} {typeName : String} {seen : Observation} {object : Object}
  {scope : Scope} {rule : DefaultRule} {e : Error}

theorem defaults_eq_ranked (r : MemberRules) : r.defaults = r.rankedDefaults := by
  unfold defaults blocks rankedDefaults
  cases r.consolidated <;> simp

theorem findDefault_eq_none : r.findDefault typeName seen object scope = .ok none
    ↔ selectDefault seen r.defaults = .ok none := by
  unfold findDefault
  rw [Result.bind_eq_ok]
  constructor
  · rintro ⟨selected, hselect, h⟩
    cases selected with
    | none => exact hselect
    | some rule =>
      obtain ⟨provide, -, h⟩ := Result.bind_eq_ok.mp h
      cases h
  · intro hselect
    exact ⟨none, hselect, rfl⟩

/-- A datum comes from the default that is selected. -/
theorem findDefault_eq_some {d : Datum} :
    r.findDefault typeName seen object scope = .ok (some d) ↔ ∃ rule provide,
      selectDefault seen r.defaults = .ok (some rule)
        ∧ rule.resolve typeName scope = .ok provide ∧ provide object = d := by
  unfold findDefault
  rw [Result.bind_eq_ok]
  constructor
  · rintro ⟨selected, hselect, h⟩
    cases selected with
    | none => cases h
    | some rule =>
      obtain ⟨provide, hresolve, h⟩ := Result.bind_eq_ok.mp h
      exact ⟨rule, provide, hselect, hresolve, Option.some.inj (Except.ok.inj h)⟩
  · rintro ⟨rule, provide, hselect, hresolve, rfl⟩
    exact ⟨some rule, hselect, Result.bind_eq_ok.mpr ⟨provide, hresolve, rfl⟩⟩

theorem findDefault_of_selectDefault (h : selectDefault seen r.defaults = .ok (some rule)) :
    r.findDefault typeName seen object scope
      = (rule.resolve typeName scope >>= fun provide => .ok (some (provide object))) := by
  unfold findDefault
  rw [h]
  rfl

/-- The first default that applies is asked for the datum. -/
theorem findDefault_of_firstToApply (h : r.EvaluatesTriggers seen)
    (hrule : FirstToApply r.rankedDefaults seen rule) :
    r.findDefault typeName seen object scope
      = (rule.resolve typeName scope >>= fun provide => .ok (some (provide object))) := by
  apply findDefault_of_selectDefault
  rw [defaults_eq_ranked, selectDefault_eq_some h]
  exact hrule

end Members

/-! ## Rules that differ in what is not asked -/

section Exchange

variable {seen : Observation} {rule : DefaultRule} {before before' : List DefaultRule}

theorem flatMap_triggers_eq (h : before'.map (·.triggers) = before.map (·.triggers)) :
    before'.flatMap (·.triggers) = before.flatMap (·.triggers) := by
  rw [List.flatMap_def, List.flatMap_def, h]

theorem none_applies_of_map_eq (h : before'.map (·.triggers) = before.map (·.triggers))
    (hbefore : ∀ earlier ∈ before, ¬ earlier.AppliesTo seen) :
    ∀ earlier ∈ before', ¬ earlier.AppliesTo seen := by
  intro earlier hearlier happlies
  have hmem : earlier.triggers ∈ before.map (·.triggers) := h ▸ List.mem_map_of_mem hearlier
  obtain ⟨partner, hpartner, htriggers⟩ := List.mem_map.mp hmem
  apply hbefore partner hpartner
  rw [DefaultRule.AppliesTo, htriggers]
  exact happlies

/-- The search reaches the same triggers when only what is behind a default that applies, and what
is before it besides the triggers, is different. -/
theorem EvaluatesTriggers.exchange {r r' : MemberRules} {after after' : List DefaultRule}
    (h : r.EvaluatesTriggers seen) (hrules : r.rankedDefaults = before ++ rule :: after)
    (hrules' : r'.rankedDefaults = before' ++ rule :: after')
    (htriggers : before'.map (·.triggers) = before.map (·.triggers))
    (happlies : rule.AppliesTo seen) : r'.EvaluatesTriggers seen := by
  intro t ht
  apply h t
  rw [hrules', List.flatMap_append, List.flatMap_cons, ← List.append_assoc,
    flatMap_triggers_eq htriggers] at ht
  rw [hrules, List.flatMap_append, List.flatMap_cons, ← List.append_assoc]
  apply ht.exchange
  obtain ⟨t', ht', happlies⟩ := happlies
  exact ⟨t', List.mem_append_right _ ht', happlies⟩

end Exchange

/-- If the triggers that are reached can be evaluated, the default of a member is found as the rules
say, whatever is seen of the member and whatever its object and its table of rules are. -/
theorem selectsDefault (r : MemberRules) (typeName : String) (seen : Observation)
    (object : Object) (scope : Scope) (h : r.EvaluatesTriggers seen) :
    r.SelectsDefault typeName seen object scope where
  none := by rw [findDefault_eq_none, defaults_eq_ranked, selectDefault_eq_none h]
  provided rule provide hrule hprovide := by
    rw [findDefault_of_firstToApply h hrule, hprovide]
    rfl
  broken rule e hrule hprovide := by
    rw [findDefault_of_firstToApply h hrule, hprovide]
    exact ⟨rfl, Scope.exists_fault_of_resolve hprovide⟩
  othersUnasked before rule after hrules happlies hbefore r' scope' before' after' hrules' htriggers
      hprovide := by
    have hrule : FirstToApply r.rankedDefaults seen rule :=
      ⟨before, after, hrules, happlies, hbefore⟩
    have hrule' : FirstToApply r'.rankedDefaults seen rule :=
      ⟨before', after', hrules', happlies, none_applies_of_map_eq htriggers hbefore⟩
    have h' : r'.EvaluatesTriggers seen := h.exchange hrules hrules' htriggers happlies
    rw [findDefault_of_firstToApply h' hrule', findDefault_of_firstToApply h hrule, hprovide]
  missingUnused null empty native hseen rule hmissing hrule := by
    obtain ⟨before, after, -, ⟨t, ht, happlies⟩, -⟩ := hrule
    obtain rfl := hmissing t ht
    subst hseen
    cases happlies with
    | isMissing h => cases h

end MemberRules

/-! ## The signature of a letter

A signature that is null or empty is replaced. The other two defaults are broken: there is no rule
of the name that the one for missing entries asks for, and the last one asks for nothing at all.
-/

namespace Example

/-- The default for a signature that is null or empty. -/
def signatureDefault : DefaultRule := ⟨.inline fun _ => .string "Yours", [.isNull, .isEmpty]⟩

/-- The rules of a signature. -/
def signatureRules : MemberRules :=
  ((MemberRules.addBlock {} [.default ⟨.named "gone" none, [.isMissing]⟩]).add
    (.default signatureDefault)).add (.default ⟨.unset, [.isEmpty]⟩)

/-- The member that the rules belong to. -/
def signatureScope : Scope := ⟨"signature", "Letter", ⟨"Letter", []⟩⟩

/-- An empty signature. It knows that it is empty, so its native form need not exist. -/
def emptySignature : Observation :=
  .ofDatum (.string "") (.mk fun _ => .error (.custom "no native form"))

/-- An empty signature is replaced: the default before is not taken, though it would fail, and the
one behind is not asked. A missing signature fails, and is not replaced by another default. -/
theorem selectsDefault_signature :
    signatureRules.EvaluatesTriggers emptySignature
      ∧ signatureRules.findDefault "String" emptySignature ⟨"Letter", []⟩ signatureScope
        = .ok (some (.string "Yours"))
      ∧ signatureRules.EvaluatesTriggers (.entry .absent)
      ∧ signatureRules.findDefault "String" (.entry .absent) ⟨"Letter", []⟩ signatureScope
        = .error (.ruleResolution "signature" "Letter"
          (.unknown "gone" .defaultProvider ["Letter"])) := by
  have hempty : signatureRules.EvaluatesTriggers emptySignature := by
    intro t _
    cases t <;> exact ⟨_, rfl⟩
  have hmissing : signatureRules.EvaluatesTriggers (.entry .absent) := by
    intro t _
    cases t <;> exact ⟨_, rfl⟩
  have hfirst : FirstToApply signatureRules.rankedDefaults emptySignature signatureDefault := by
    refine ⟨[_], [_], rfl, ⟨.isEmpty, by decide, .isEmpty .datum⟩, ?_⟩
    rintro _ (_ | ⟨_, ⟨⟩⟩) ⟨t, ht, happlies⟩
    obtain rfl := List.mem_singleton.mp ht
    cases happlies with
    | isMissing h => cases h
  have hbroken : FirstToApply signatureRules.rankedDefaults (.entry .absent)
      ⟨.named "gone" none, [.isMissing]⟩ :=
    ⟨[], [_, _], rfl, ⟨.isMissing, by decide, .isMissing rfl⟩, nofun⟩
  exact ⟨hempty, (MemberRules.selectsDefault _ _ _ _ _ hempty).provided _ _ hfirst rfl, hmissing,
    ((MemberRules.selectsDefault _ _ _ _ _ hmissing).broken _ _ hbroken rfl).1⟩

end Example

end ConfigBinding
