import ConfigBinding.Proofs.Rule.Observed

/-!
# When a member is skipped

Four lists of rules count in a direction: those for both directions and those for this one, of the
consolidated block and of the standalone one (`MemberRules.skipLists`). `SkipIf.AppliesTo` says what a
rule applies to, and `SkipIf.FailsWith` when it cannot be evaluated: its closure is not found, or it
needs the native form of a datum, which cannot be made.

All rules of the four lists are evaluated, also behind one that applies. So the order of the rules,
and which of the lists a rule stands in, matters for nothing but which error is reported when several
rules cannot be evaluated (`MemberRules.decidesSkip`).
-/

namespace ConfigBinding

/-! ## One rule -/

/-- What a condition for skipping applies to, in an object. -/
inductive SkipIf.AppliesTo (direction : Direction) (seen : Observation) (object : Object)
    (scope : Scope) : SkipIf → Prop where
  | always : AppliesTo direction seen object scope .always
  | isMissing (h : seen = .entry .absent) : AppliesTo direction seen object scope .isMissing
  | isNull (h : seen.ShowsNull) : AppliesTo direction seen object scope .isNull
  /-- When reading, a missing entry counts as null. -/
  | isNullMissing (hdirection : direction = .reading) (h : seen = .entry .absent) :
    AppliesTo direction seen object scope .isNull
  | isEmpty (h : seen.ShowsEmpty) : AppliesTo direction seen object scope .isEmpty
  /-- The closure is found, and it says so of the member's entry in this object. -/
  | custom {check : Check SkipPredicate} {closure : SkipPredicate} {entry : Entry}
    (hresolve : scope.resolve .skipPredicate Closure.skip? Closure.sharedSkip? check = .ok closure)
    (hentry : seen.ShowsEntry entry) (hskips : closure object entry = true) :
    AppliesTo direction seen object scope (.custom check)

/-- Why a condition for skipping cannot be evaluated. -/
inductive SkipIf.FailsWith (seen : Observation) (scope : Scope) : SkipIf → Error → Prop where
  | isEmpty {e : Error} (h : seen.EmptinessUnknown e) : FailsWith seen scope .isEmpty e
  | unresolved {check : Check SkipPredicate} {e : Error}
    (h : scope.resolve .skipPredicate Closure.skip? Closure.sharedSkip? check = .error e) :
    FailsWith seen scope (.custom check) e
  /-- The closure is found, but there is no entry to show it. -/
  | entry {check : Check SkipPredicate} {closure : SkipPredicate} {e : Error}
    (hresolve : scope.resolve .skipPredicate Closure.skip? Closure.sharedSkip? check = .ok closure)
    (h : seen.EntryUnknown e) : FailsWith seen scope (.custom check) e

section Rules

variable {r : MemberRules} {direction : Direction} {seen : Observation} {object : Object}
  {scope : Scope} {w : SkipIf} {e : Error} {b : Bool}

namespace SkipIf

theorem applies_eq_error : w.applies direction seen object scope = .error e
    ↔ w.FailsWith seen scope e := by
  constructor
  · intro h
    cases w with
    | always | isMissing | isNull => cases h
    | isEmpty => exact .isEmpty (Observation.isEmpty_eq_error.mp h)
    | custom check =>
      rcases Result.bind_eq_error.mp h with hresolve | ⟨closure, hresolve, h⟩
      · exact .unresolved hresolve
      · rcases Result.bind_eq_error.mp h with hentry | ⟨entry, -, h⟩
        · exact .entry hresolve (Observation.toEntry_eq_error.mp hentry)
        · cases h
  · rintro (h | hresolve | ⟨hresolve, h⟩)
    · exact Observation.isEmpty_eq_error.mpr h
    · exact Result.bind_eq_error.mpr (.inl hresolve)
    · apply Result.bind_eq_error.mpr
      exact .inr ⟨_, hresolve, Result.bind_eq_error.mpr
        (.inl (Observation.toEntry_eq_error.mpr h))⟩

theorem applies_isNull_eq_true : SkipIf.isNull.applies direction seen object scope = .ok true
    ↔ seen.ShowsNull ∨ direction = .reading ∧ seen = .entry .absent := by
  simp only [applies, Except.ok.injEq, Bool.or_eq_true, Bool.and_eq_true, decide_eq_true_eq,
    Observation.isNull_eq_true, Observation.isAbsent_eq_true]

theorem applies_custom_eq_ok {check : Check SkipPredicate} :
    (SkipIf.custom check).applies direction seen object scope = .ok b ↔ ∃ closure entry,
      scope.resolve .skipPredicate Closure.skip? Closure.sharedSkip? check = .ok closure
        ∧ seen.ShowsEntry entry ∧ closure object entry = b := by
  constructor
  · intro h
    obtain ⟨closure, hresolve, h⟩ := Result.bind_eq_ok.mp h
    obtain ⟨entry, hentry, h⟩ := Result.bind_eq_ok.mp h
    exact ⟨closure, entry, hresolve, Observation.toEntry_eq_ok.mp hentry, Except.ok.inj h⟩
  · rintro ⟨closure, entry, hresolve, hentry, rfl⟩
    apply Result.bind_eq_ok.mpr
    exact ⟨closure, hresolve, Result.bind_eq_ok.mpr
      ⟨entry, Observation.toEntry_eq_ok.mpr hentry, rfl⟩⟩

theorem applies_eq_true : w.applies direction seen object scope = .ok true
    ↔ w.AppliesTo direction seen object scope := by
  constructor
  · intro h
    cases w with
    | always => exact .always
    | isMissing => exact .isMissing (Observation.isAbsent_eq_true.mp (Except.ok.inj h))
    | isNull =>
      rcases applies_isNull_eq_true.mp h with hnull | ⟨hdirection, habsent⟩
      · exact .isNull hnull
      · exact .isNullMissing hdirection habsent
    | isEmpty => exact .isEmpty (Observation.isEmpty_eq_true.mp h)
    | custom check =>
      obtain ⟨closure, entry, hresolve, hentry, hskips⟩ := applies_custom_eq_ok.mp h
      exact .custom hresolve hentry hskips
  · intro h
    cases h with
    | always => rfl
    | isMissing h => exact congrArg Except.ok (Observation.isAbsent_eq_true.mpr h)
    | isNull h => exact applies_isNull_eq_true.mpr (.inl h)
    | isNullMissing hdirection h => exact applies_isNull_eq_true.mpr (.inr ⟨hdirection, h⟩)
    | isEmpty h => exact Observation.isEmpty_eq_true.mpr h
    | custom hresolve hentry hskips =>
      exact applies_custom_eq_ok.mpr ⟨_, _, hresolve, hentry, hskips⟩

/-- A rule that does not fail is decided. -/
theorem decides_applies (h : ∀ e, ¬ w.FailsWith seen scope e) :
    (w.applies direction seen object scope).Decides (w.AppliesTo direction seen object scope) := by
  apply Result.Decides.of_ne_error _ applies_eq_true
  intro e he
  exact h e (applies_eq_error.mp he)

/-- A rule that is answered does not fail. -/
theorem not_failsWith_of_applies (h : w.applies direction seen object scope = .ok b) :
    ¬ w.FailsWith seen scope e := by
  intro hfails
  cases h.symm.trans (applies_eq_error.mpr hfails)

end SkipIf

/-! ## All rules -/

namespace MemberRules

/-- The question whether a member is skipped fails with the error of the first rule that fails. -/
theorem shouldSkip_eq_error : r.shouldSkip direction seen object scope = .error e
    ↔ ∃ before w after, r.skipRules direction = before ++ w :: after ∧ w.FailsWith seen scope e
      ∧ ∀ earlier ∈ before, ∀ e', ¬ earlier.FailsWith seen scope e' := by
  have hrun : r.shouldSkip direction seen object scope = .error e
      ↔ (r.skipRules direction).mapM (fun w => w.applies direction seen object scope)
        = .error e := by
    rw [shouldSkip, Result.bind_eq_error, or_iff_left]
    rintro ⟨applied, -, h⟩
    cases h
  have hanswered : ∀ w : SkipIf, (∃ b, w.applies direction seen object scope = .ok b)
      ↔ ∀ e', ¬ w.FailsWith seen scope e' := by
    intro w
    constructor
    · rintro ⟨b, hb⟩ e'
      exact SkipIf.not_failsWith_of_applies hb
    · intro h
      obtain ⟨b, hb, -⟩ : (w.applies direction seen object scope).Decides _ :=
        SkipIf.decides_applies h
      exact ⟨b, hb⟩
  rw [hrun, Result.mapM_eq_error]
  simp only [SkipIf.applies_eq_error, hanswered]

/-- When no rule fails, a member is skipped if one of them applies. -/
theorem decides_shouldSkip (h : ∀ w ∈ r.skipRules direction, ∀ e, ¬ w.FailsWith seen scope e) :
    (r.shouldSkip direction seen object scope).Decides
      (∃ w ∈ r.skipRules direction, w.AppliesTo direction seen object scope) :=
  Result.Decides.any fun w hw => SkipIf.decides_applies (h w hw)

theorem not_failsWith_of_shouldSkip (h : r.shouldSkip direction seen object scope = .ok b)
    (hw : w ∈ r.skipRules direction) : ¬ w.FailsWith seen scope e := by
  obtain ⟨applied, hrun, -⟩ := Result.bind_eq_ok.mp h
  obtain ⟨answer, -, hanswer⟩ := exists_of_forall₂ (Result.mapM_eq_ok.mp hrun).flip hw
  exact SkipIf.not_failsWith_of_applies hanswer

/-- The question is answered exactly if no rule fails, and then by whether one of them applies. -/
theorem shouldSkip_eq_ok : r.shouldSkip direction seen object scope = .ok b
    ↔ (∀ w ∈ r.skipRules direction, ∀ e, ¬ w.FailsWith seen scope e)
      ∧ (b = true ↔ ∃ w ∈ r.skipRules direction, w.AppliesTo direction seen object scope) := by
  constructor
  · intro h
    have hfails : ∀ w ∈ r.skipRules direction, ∀ e, ¬ w.FailsWith seen scope e :=
      fun w hw e => not_failsWith_of_shouldSkip h hw
    obtain ⟨b', hb', hdecides⟩ : (r.shouldSkip direction seen object scope).Decides _ :=
      decides_shouldSkip hfails
    obtain rfl := Except.ok.inj (h.symm.trans hb')
    exact ⟨hfails, hdecides⟩
  · rintro ⟨hfails, hb⟩
    obtain ⟨b', hb', hdecides⟩ : (r.shouldSkip direction seen object scope).Decides _ :=
      decides_shouldSkip hfails
    rw [hb', Except.ok.injEq, Bool.eq_iff_iff, hdecides, hb]

/-- The question fails exactly if one of the rules does. -/
theorem shouldSkip_fails : (∃ e, r.shouldSkip direction seen object scope = .error e)
    ↔ ∃ w ∈ r.skipRules direction, ∃ e, w.FailsWith seen scope e := by
  constructor
  · rintro ⟨e, he⟩
    obtain ⟨before, w, after, hsplit, hw, -⟩ := shouldSkip_eq_error.mp he
    exact ⟨w, hsplit ▸ List.mem_append_right before List.mem_cons_self, e, hw⟩
  · rintro ⟨w, hw, e, hfails⟩
    cases h : r.shouldSkip direction seen object scope with
    | error e' => exact ⟨e', rfl⟩
    | ok b => exact absurd hfails (not_failsWith_of_shouldSkip h hw)

end MemberRules

/-! ## The four lists -/

/-- The skip rules of a block for one direction alone. -/
def RuleSet.ownSkips (s : RuleSet) : Direction → List SkipIf
  | .writing => s.skipsWriting
  | .reading => s.skipsReading

namespace MemberRules

/-- The lists of skip rules that count in a direction, the first ones first: those of the
consolidated block come before the standalone ones, and in each block those for both directions
before those for this one. -/
def skipLists (r : MemberRules) (direction : Direction) : List (List SkipIf) :=
  let consolidated := r.consolidated.getD {}
  [consolidated.skips, consolidated.ownSkips direction,
    r.standalone.skips, r.standalone.ownSkips direction]

theorem skipRules_eq_flatten (r : MemberRules) (direction : Direction) :
    r.skipRules direction = (r.skipLists direction).flatten := by
  have hblock : ∀ s : RuleSet, s.skipRules direction = s.skips ++ s.ownSkips direction := by
    intro s
    cases direction <;> rfl
  unfold skipRules blocks skipLists
  cases r.consolidated with
  | none => cases direction <;> simp [hblock, RuleSet.ownSkips]
  | some s => simp [hblock]

/-- A rule stands in one of the four lists. -/
def Counts (r : MemberRules) (direction : Direction) (w : SkipIf) : Prop :=
  ∃ rules ∈ r.skipLists direction, w ∈ rules

theorem mem_skipRules : w ∈ r.skipRules direction ↔ r.Counts direction w := by
  rw [skipRules_eq_flatten, List.mem_flatten, Counts]

/-- How the rules decide whether a member is skipped. -/
structure DecidesSkip (r : MemberRules) (direction : Direction) (seen : Observation)
    (object : Object) (scope : Scope) : Prop where
  /-- The question fails exactly if one of the rules that count cannot be evaluated. -/
  fails : (∃ e, r.shouldSkip direction seen object scope = .error e)
    ↔ ∃ w, r.Counts direction w ∧ ∃ e, w.FailsWith seen scope e
  /-- The error is that of the first such rule. -/
  first : ∀ e, r.shouldSkip direction seen object scope = .error e
    ↔ ∃ before w after, (r.skipLists direction).flatten = before ++ w :: after
      ∧ w.FailsWith seen scope e ∧ ∀ earlier ∈ before, ∀ e', ¬ earlier.FailsWith seen scope e'
  /-- If it does not fail, the member is skipped exactly if one of the rules applies. -/
  answers : ∀ b, r.shouldSkip direction seen object scope = .ok b
    → (b = true ↔ ∃ w, r.Counts direction w ∧ w.AppliesTo direction seen object scope)
  /-- Nothing but the four lists matters, so the rules for the other direction do not. -/
  nothingElse : ∀ r' : MemberRules, r'.skipLists direction = r.skipLists direction
    → r'.shouldSkip direction seen object scope = r.shouldSkip direction seen object scope
  /-- If the same rules stand in another order, or in others of the four lists, the question fails
  in the same cases, and otherwise has the same answer. -/
  order : ∀ r' : MemberRules,
    (r'.skipLists direction).flatten.Perm (r.skipLists direction).flatten
    → ((∃ e, r'.shouldSkip direction seen object scope = .error e)
        ↔ ∃ e, r.shouldSkip direction seen object scope = .error e)
      ∧ ∀ b, r'.shouldSkip direction seen object scope = .ok b
        ↔ r.shouldSkip direction seen object scope = .ok b

/-- The rules of a member decide in each direction whether it is skipped, whatever is seen of the
member and whatever its object and its table of rules are. -/
theorem decidesSkip (r : MemberRules) (direction : Direction) (seen : Observation)
    (object : Object) (scope : Scope) : r.DecidesSkip direction seen object scope where
  fails := by simp only [shouldSkip_fails, mem_skipRules]
  first e := by rw [shouldSkip_eq_error, skipRules_eq_flatten]
  answers b h := by simpa only [mem_skipRules] using (shouldSkip_eq_ok.mp h).2
  nothingElse r' h := by
    unfold shouldSkip
    rw [skipRules_eq_flatten, skipRules_eq_flatten, h]
  order r' h := by
    have hmem : ∀ w, w ∈ r'.skipRules direction ↔ w ∈ r.skipRules direction := by
      intro w
      rw [skipRules_eq_flatten, skipRules_eq_flatten, h.mem_iff]
    simp only [shouldSkip_fails, shouldSkip_eq_ok, hmem, implies_true, and_self]

/-- That a name is unknown comes to light behind a rule that always applies. -/
example (seen : Observation) (object : Object) :
    MemberRules.shouldSkip (.add (.add {} (.skip none .always))
        (.skip (some .writing) (.custom (.named "gone" none)))) .writing seen object
        ⟨"port", "Server", ⟨"Server", []⟩⟩
      = .error (.ruleResolution "port" "Server" (.unknown "gone" .skipPredicate ["Server"])) :=
  rfl

end MemberRules

end Rules

end ConfigBinding
