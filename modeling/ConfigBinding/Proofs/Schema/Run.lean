import ConfigBinding.Proofs.Rule.Assertions
import ConfigBinding.Schema.TypeTable

/-!
# Members one after the other

What a member does in a run is told by `Member.toWrite_cases` and `Member.toRead_cases`: it is
skipped, or there is a datum that it is written or read as, which meets all its assertions. Later
proofs go by these and do not look at the rules again.

A run goes through the members that take part in it, and stops at the first one that fails. So it
comes to a member when the members before it have gone through (`Schema.WritesUpTo`,
`Schema.ReadsUpTo`), and a run that fails has come to the member that fails
(`Schema.writesUpTo_of_error`, `Schema.readsUpTo_of_error`).
-/

namespace ConfigBinding

/-! ## One member -/

namespace MemberRules

variable {r : MemberRules}

theorem findDefault_of_nil (h : r.defaults = []) (typeName : String) (seen : Observation)
    (x : Object) (scope : Scope) : r.findDefault typeName seen x scope = .ok none := by
  rw [findDefault, h]
  rfl

theorem checkAsserts_of_nil (h : r.asserts = []) (typeName : String) (d : Datum) (x : Object)
    (scope : Scope) : r.checkAsserts typeName d x scope = .ok () := by
  rw [checkAsserts, h]
  rfl

end MemberRules

/-- Members that are not transient take part in every run. -/
theorem Options.includes_of_not_isTransient {τ : Type} {m : Member τ} (o : Options)
    (h : m.rules.isTransient = false) : o.includes m = true := by
  rw [includes, h, Bool.and_false]
  rfl

theorem filter_includes_eq_self {τ : Type} {ms : List (Member τ)} (o : Options)
    (h : ∀ m ∈ ms, m.rules.isTransient = false) : ms.filter o.includes = ms :=
  List.filter_eq_self.mpr fun m hm => o.includes_of_not_isTransient (h m hm)

namespace Member

/-- The datum meets every assertion of the member, in the object as it stands. -/
def Accepts (m : Member Codec) (x : Object) (d : Datum) : Prop :=
  ∀ block ∈ m.rules.blocks, ∀ rule ∈ block.asserts, rule.Met m.type.name d (m.owner x) m.scope

section Writing

variable {o : Options} {m : Member Codec} {x : Object}

/-- Whether the member is left out when the object is written. -/
def skipsWriting (m : Member Codec) (o : Options) (x : Object) : Result Bool :=
  m.rules.shouldSkip .writing (m.observed x (m.ownNative o x)) (m.owner x) m.scope

/-- The default that takes the place of the member's datum when the object is written. -/
def writingDefault (m : Member Codec) (o : Options) (x : Object) : Result (Option Datum) :=
  m.rules.findDefault m.type.name (m.observed x (m.ownNative o x)) (m.owner x) m.scope

/-- The member is written as a datum: the default that applies, or its own datum if none does. -/
def WrittenAs (m : Member Codec) (o : Options) (x : Object) (d : Datum) : Prop :=
  m.writingDefault o x = .ok (some d) ∨ m.writingDefault o x = .ok none ∧ d = m.get x

theorem writtenAs_of_substituted {d : Datum} {v : Value}
    (h : m.substituted o x (m.ownNative o x) = .ok (d, v)) :
    m.WrittenAs o x d ∧ m.type.toNative o d = .ok v := by
  obtain ⟨default, hdefault, h⟩ := Result.bind_eq_ok.mp h
  cases default with
  | some d' =>
    obtain ⟨v', hnative, h⟩ := Result.bind_eq_ok.mp h
    obtain ⟨rfl, rfl⟩ := Prod.mk.inj (Except.ok.inj h)
    exact ⟨.inl hdefault, Result.mapError_eq_ok.mp hnative⟩
  | none =>
    obtain ⟨v', hnative, h⟩ := Result.bind_eq_ok.mp h
    obtain ⟨rfl, rfl⟩ := Prod.mk.inj (Except.ok.inj h)
    exact ⟨.inr ⟨hdefault, rfl⟩, Result.mapError_eq_ok.mp hnative⟩

/-- A member that does not fail is skipped, or is written as a datum that meets its assertions, and
stored as the value that this datum is converted into. -/
theorem toWrite_cases {r : Option (Datum × Value)} (h : m.toWrite o x = .ok r) :
    (m.skipsWriting o x = .ok true ∧ r = none)
      ∨ ∃ d v, m.skipsWriting o x = .ok false ∧ m.WrittenAs o x d ∧ m.Accepts x d
        ∧ m.type.write o d = .ok v ∧ r = some (d, v) := by
  obtain ⟨skips, hskip, h⟩ := Result.bind_eq_ok.mp h
  cases skips with
  | true => exact .inl ⟨hskip, (Except.ok.inj h).symm⟩
  | false =>
    obtain ⟨⟨d, native⟩, hsubstituted, h⟩ := Result.bind_eq_ok.mp h
    obtain ⟨⟨⟩, hcheck, h⟩ := Result.bind_eq_ok.mp h
    obtain ⟨v, hstored, h⟩ := Result.bind_eq_ok.mp h
    obtain ⟨hd, hnative⟩ := writtenAs_of_substituted hsubstituted
    have hwrite : m.type.write o d = .ok v :=
      Result.bind_eq_ok.mpr ⟨native, hnative, Result.mapError_eq_ok.mp hstored⟩
    exact .inr ⟨d, v, hskip, hd, MemberRules.checkAsserts_eq_ok.mp hcheck, hwrite,
      (Except.ok.inj h).symm⟩

/-- A member that is skipped has nothing to write. -/
theorem toWrite_of_skipsWriting (h : m.skipsWriting o x = .ok true) : m.toWrite o x = .ok none :=
  Result.bind_eq_ok.mpr ⟨true, h, rfl⟩

/-- Without defaults and assertions, a member that is not skipped is written as its own datum. -/
theorem toWrite_eq_own (hskip : m.skipsWriting o x = .ok false) (hdefaults : m.rules.defaults = [])
    (hasserts : m.rules.asserts = []) {v : Value} (hwrite : m.type.write o (m.get x) = .ok v) :
    m.toWrite o x = .ok (some (m.get x, v)) := by
  obtain ⟨native, hnative, hstored⟩ := Result.bind_eq_ok.mp hwrite
  have hown : m.native o (m.get x) = .ok native := Result.mapError_eq_ok.mpr hnative
  have hsubstituted : m.substituted o x (m.ownNative o x) = .ok (m.get x, native) :=
    Result.bind_eq_ok.mpr ⟨none, MemberRules.findDefault_of_nil hdefaults _ _ _ _,
      Result.bind_eq_ok.mpr ⟨native, hown, rfl⟩⟩
  refine Result.bind_eq_ok.mpr ⟨false, hskip, Result.bind_eq_ok.mpr ⟨_, hsubstituted, ?_⟩⟩
  refine Result.bind_eq_ok.mpr ⟨(), MemberRules.checkAsserts_of_nil hasserts _ _ _ _, ?_⟩
  exact Result.bind_eq_ok.mpr ⟨v, Result.mapError_eq_ok.mpr hstored, rfl⟩

end Writing

section Reading

variable {σ : Type} [Store σ] {o : Options} {m : Member Codec} {x : Object} {source : σ}

/-- Whether the member is left as it is when the object is read. -/
def skipsReading (m : Member Codec) (o : Options) (source : σ) (x : Object) : Result Bool :=
  m.rules.shouldSkip .reading (.entry (m.entry o source)) (m.owner x) m.scope

/-- The default that takes the place of the member's entry when the object is read. -/
def readingDefault (m : Member Codec) (o : Options) (source : σ) (x : Object) :
    Result (Option Datum) :=
  m.rules.findDefault m.type.name (.entry (m.entry o source)) (m.owner x) m.scope

/-- The member is read as a datum: the default that applies, or what its entry stands for if none
does. -/
def ReadAs (m : Member Codec) (o : Options) (source : σ) (x : Object) (d : Datum) : Prop :=
  m.readingDefault o source x = .ok (some d)
    ∨ m.readingDefault o source x = .ok none ∧ m.convert o (m.entry o source) = .ok d

/-- A member that does not fail is skipped, or is read as a datum that meets its assertions. -/
theorem toRead_cases {r : Option Datum} (h : m.toRead o source x = .ok r) :
    (m.skipsReading o source x = .ok true ∧ r = none)
      ∨ ∃ d, m.skipsReading o source x = .ok false ∧ m.ReadAs o source x d ∧ m.Accepts x d
        ∧ r = some d := by
  -- the check of the assertions follows on both ways to a datum
  have haccepts : ∀ {d}, (do
      m.rules.checkAsserts m.type.name d (m.owner x) m.scope
      return some d : Result (Option Datum)) = .ok r → m.Accepts x d ∧ r = some d := by
    intro d h
    obtain ⟨⟨⟩, hcheck, h⟩ := Result.bind_eq_ok.mp h
    exact ⟨MemberRules.checkAsserts_eq_ok.mp hcheck, (Except.ok.inj h).symm⟩
  obtain ⟨skips, hskip, h⟩ := Result.bind_eq_ok.mp h
  cases skips with
  | true => exact .inl ⟨hskip, (Except.ok.inj h).symm⟩
  | false =>
    obtain ⟨default, hdefault, h⟩ := Result.bind_eq_ok.mp h
    cases default with
    | some d => exact .inr ⟨d, hskip, .inl hdefault, haccepts h⟩
    | none =>
      obtain ⟨d, hconvert, h⟩ := Result.bind_eq_ok.mp h
      exact .inr ⟨d, hskip, .inr ⟨hdefault, hconvert⟩, haccepts h⟩

/-- A member that is skipped has nothing to become. -/
theorem toRead_of_skipsReading (h : m.skipsReading o source x = .ok true) :
    m.toRead o source x = .ok none :=
  Result.bind_eq_ok.mpr ⟨true, h, rfl⟩

/-- Without defaults and assertions, a member that is not skipped becomes what its entry stands
for. -/
theorem toRead_eq_convert (hskip : m.skipsReading o source x = .ok false)
    (hdefaults : m.rules.defaults = []) (hasserts : m.rules.asserts = []) :
    m.toRead o source x = some <$> m.convert o (m.entry o source) := by
  have hdefault : m.readingDefault o source x = .ok none :=
    MemberRules.findDefault_of_nil hdefaults _ _ _ _
  rw [skipsReading] at hskip
  rw [readingDefault] at hdefault
  rw [toRead]
  simp only [hskip, hdefault, MemberRules.checkAsserts_of_nil hasserts]
  cases m.convert o (m.entry o source) <;> rfl

/-- Reading a member fails when it cannot be said what the member is to become, and leaves the
object as it is. -/
theorem toRead_of_read {x' : Object} {e : Error} (h : m.read o source x = (.error e, x')) :
    m.toRead o source x = .error e ∧ x' = x := by
  rw [read] at h
  split at h <;> cases h
  rename_i h
  exact ⟨h, rfl⟩

end Reading

end Member

/-! ## Runs over members -/

section Runs

variable {σ : Type} [Store σ] {o : Options} {e : Error} {ms : List (Member Codec)}

theorem writeMembers_append {x : Object} {s : σ} (before after : List (Member Codec)) :
    writeMembers o x (before ++ after) s
      = match writeMembers o x before s with
        | (.error e, s) => (.error e, s)
        | (.ok _, s) => writeMembers o x after s := by
  induction before generalizing s with
  | nil => rfl
  | cons m rest ih =>
    rw [List.cons_append, writeMembers, writeMembers]
    split
    · rfl
    · exact ih

theorem readMembers_append {source : σ} {x : Object} (before after : List (Member Codec)) :
    readMembers o source (before ++ after) x
      = match readMembers o source before x with
        | (.error e, x) => (.error e, x)
        | (.ok _, x) => readMembers o source after x := by
  induction before generalizing x with
  | nil => rfl
  | cons m rest ih =>
    rw [List.cons_append, readMembers, readMembers]
    split
    · rfl
    · exact ih

/-- A run that fails stops at the first member whose writing fails. -/
theorem exists_of_writeMembers_error {x : Object} {s s' : σ}
    (h : writeMembers o x ms s = (.error e, s')) :
    ∃ before m after s₁, ms = before ++ m :: after ∧ writeMembers o x before s = (.ok (), s₁)
      ∧ m.write o x s₁ = (.error e, s') := by
  induction ms generalizing s with
  | nil => cases h
  | cons m rest ih =>
    rw [writeMembers] at h
    split at h
    · rename_i hm
      cases h
      exact ⟨[], m, rest, s, rfl, rfl, hm⟩
    · rename_i hm
      obtain ⟨before, m', after, s₂, rfl, hbefore, hm'⟩ := ih h
      refine ⟨m :: before, m', after, s₂, rfl, ?_, hm'⟩
      rw [writeMembers, hm]
      exact hbefore

/-- A run that fails stops at the first member whose reading fails, and the object is what the
members before it have made of it. -/
theorem exists_of_readMembers_error {source : σ} {x x' : Object}
    (h : readMembers o source ms x = (.error e, x')) :
    ∃ before m after, ms = before ++ m :: after
      ∧ readMembers o source before x = (.ok (), x') ∧ m.toRead o source x' = .error e := by
  induction ms generalizing x with
  | nil => cases h
  | cons m rest ih =>
    rw [readMembers] at h
    split at h
    · rename_i hm
      cases h
      obtain ⟨hm, rfl⟩ := Member.toRead_of_read hm
      exact ⟨[], m, rest, rfl, rfl, hm⟩
    · rename_i hm
      obtain ⟨before, m', after, rfl, hbefore, hm'⟩ := ih h
      refine ⟨m :: before, m', after, rfl, ?_, hm'⟩
      rw [readMembers, hm]
      exact hbefore

end Runs

/-! ## Runs over schemas -/

namespace Schema

/-- The schema with these members only. -/
def withMembers {τ : Type} (schema : Schema τ) (ms : List (Member τ)) : Schema τ :=
  { schema with members := ms }

variable {σ : Type} [Store σ] {schema : Schema Codec} {o : Options} {x : Object} {e : Error}

/-- Writing comes to a member with the store at `s₁`: the member takes part, and the members before
it alone, written from `s`, leave the store at `s₁`. -/
structure WritesUpTo (schema : Schema Codec) (o : Options) (x : Object) (s : σ)
    (before : List (Member Codec)) (m : Member Codec) (after : List (Member Codec)) (s₁ : σ) :
    Prop where
  members : schema.members = before ++ m :: after
  included : o.includes m = true
  run : (schema.withMembers before).write o x s = (.ok (), s₁)

/-- Reading comes to a member with the object at `y`: the member takes part, and the members before
it alone, read into `x`, leave the object at `y`. -/
structure ReadsUpTo (schema : Schema Codec) (o : Options) (source : σ) (x : Object)
    (before : List (Member Codec)) (m : Member Codec) (after : List (Member Codec)) (y : Object) :
    Prop where
  members : schema.members = before ++ m :: after
  included : o.includes m = true
  run : (schema.withMembers before).read o source x = (.ok (), y)

/-- Writing that fails has come to a member whose writing fails. -/
theorem writesUpTo_of_error {s s' : σ} (h : schema.write o x s = (.error e, s')) :
    ∃ before m after s₁, schema.WritesUpTo o x s before m after s₁
      ∧ m.write o x s₁ = (.error e, s') := by
  obtain ⟨front, m, back, s₁, hms, hfront, hm⟩ := exists_of_writeMembers_error h
  obtain ⟨before, after, hmembers, rfl, hincluded⟩ := exists_of_filter_eq_append hms
  exact ⟨before, m, after, s₁, ⟨hmembers, hincluded, hfront⟩, hm⟩

/-- Reading that fails has come to a member that cannot be read, and has done nothing since. -/
theorem readsUpTo_of_error {source : σ} {x' : Object}
    (h : schema.read o source x = (.error e, x')) :
    ∃ before m after, schema.ReadsUpTo o source x before m after x'
      ∧ m.toRead o source x' = .error e := by
  obtain ⟨front, m, back, hms, hfront, hm⟩ := exists_of_readMembers_error h
  obtain ⟨before, after, hmembers, rfl, hincluded⟩ := exists_of_filter_eq_append hms
  exact ⟨before, m, after, ⟨hmembers, hincluded, hfront⟩, hm⟩

end Schema

end ConfigBinding
