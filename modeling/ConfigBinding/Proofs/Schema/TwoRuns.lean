import ConfigBinding.Proofs.Comparison
import ConfigBinding.Proofs.Schema.Trace

/-!
# Members in two runs

Rules see a member through an observation, and their closures are given the object. So if the
observations of two runs compare, and no closure that is called tells the objects apart, the rules
of the member decide alike in both runs. This holds for each of the questions that the rules are
asked, and from these it follows for the whole member, in both directions (`Member.toRead_rel`,
`Member.toWrite_rel`).

The two runs may use different codecs for the type of the member, as long as those bear the same
name and set the same constraint. And the values that they come to need not be equal. They may be
related in any way that rules take no notice of, and that converters and stores keep up
(`Comparison.Carries`, `Store.Follows`); equality is one (`Comparison.carries_eq`,
`Store.follows_eq`).
-/

namespace ConfigBinding

variable {L : Comparison} {R : Value → Value → Prop}

/-! ## Values and stores -/

/-- A relation between the values of two runs that emptiness does not depend on, and that a
comparison carries through the conversion of a registry. -/
structure Comparison.Carries (L : Comparison) (r : Registry) (R : Value → Value → Prop) : Prop where
  refl (v : Value) : R v v
  isEmpty? {v w : Value} (h : R v w) : v.isEmpty? = w.isEmpty?
  write {v w : Value} (h : R v w) (c : Constraint) : L.Rel R (r.write v c) (r.write w c)

theorem Comparison.carries_eq (r : Registry) : L.Carries r Eq where
  refl _ := rfl
  isEmpty? h := h ▸ rfl
  write h _ := h ▸ L.refl _

/-- Stores in a relation stay in it when related values are stored under the same key, or the same
comments, and what a store refuses the other one refuses as well. -/
structure Store.Follows {σ : Type} [Store σ] (R : Value → Value → Prop) (S : σ → σ → Prop) :
    Prop where
  supportsComments {s s' : σ} (h : S s s') : supportsComments s = supportsComments s'
  set {s s' : σ} (h : S s s') {v w : Value} (hvw : R v w) (key : String) :
    Result.Agree (fun _ _ => True) (set s [key] v).1 (set s' [key] w).1
      ∧ S (set s [key] v).2 (set s' [key] w).2
  setComment {s s' : σ} (h : S s s') (key text : String) :
    Result.Agree (fun _ _ => True) (setComment s [key] text).1 (setComment s' [key] text).1
      ∧ S (setComment s [key] text).2 (setComment s' [key] text).2

theorem Result.agree_self {α : Type} (x : Result α) : Agree (fun _ _ => True) x x :=
  Comparison.agreement.mono (Comparison.agreement.refl x) fun _ _ _ => trivial

theorem Store.follows_eq {σ : Type} [Store σ] : Store.Follows Eq (Eq (α := σ)) where
  supportsComments h := h ▸ rfl
  set h _ _ hvw key := by
    subst h hvw
    exact ⟨Result.agree_self _, rfl⟩
  setComment h key text := by
    subst h
    exact ⟨Result.agree_self _, rfl⟩

/-! ## Observations -/

/-- The same entry, or entries with values that are related. -/
inductive Entry.Compares (R : Value → Value → Prop) : Entry → Entry → Prop where
  | same (e : Entry) : Compares R e e
  | value {v w : Value} (h : R v w) : Compares R (.of (some v)) (.of (some w))

theorem Entry.Compares.eq {e e' : Entry} (h : e.Compares Eq e') : e = e' := by
  cases h with
  | same => rfl
  | value h => rw [h]

namespace Observation

/-- Observations of the same entry, or of data with native forms that compare. -/
inductive Compares (L : Comparison) (R : Value → Value → Prop) :
    Observation → Observation → Prop where
  | entry (e : Entry) : Compares L R (.entry e) (.entry e)
  | datum {null : Bool} {empty : Option Bool} {native native' : Thunk (Result Value)}
    (h : L.Rel R native.get native'.get) :
    Compares L R (.datum null empty native) (.datum null empty native')

variable {seen seen' : Observation}

theorem Compares.isAbsent (h : seen.Compares L R seen') : seen.isAbsent = seen'.isAbsent := by
  cases h <;> rfl

theorem Compares.isNull (h : seen.Compares L R seen') : seen.isNull = seen'.isNull := by
  cases h <;> rfl

theorem Compares.isEmpty (hR : ∀ {v w}, R v w → v.isEmpty? = w.isEmpty?)
    (h : seen.Compares L R seen') : L.Rel Eq seen.isEmpty seen'.isEmpty := by
  cases h with
  | entry e => exact L.refl _
  | @datum null empty native native' h =>
    cases null with
    | true => exact L.refl _
    | false =>
      cases empty with
      | some empty => exact L.refl _
      | none => exact L.map h fun v w hvw => by rw [hR hvw]

theorem Compares.toEntry (h : seen.Compares L R seen') :
    L.Rel (Entry.Compares R) seen.toEntry seen'.toEntry := by
  cases h with
  | entry e => exact L.ok (.same e)
  | @datum null _ native native' h =>
    cases null with
    | true => exact L.ok (.same _)
    | false => exact L.map h fun v w hvw => .value hvw

theorem Compares.triggers (hR : ∀ {v w}, R v w → v.isEmpty? = w.isEmpty?)
    (h : seen.Compares L R seen') (t : Trigger) :
    L.Rel Eq (seen.triggers t) (seen'.triggers t) := by
  cases t with
  | isMissing => exact L.ok h.isAbsent
  | isNull => exact L.ok h.isNull
  | isEmpty => exact h.isEmpty hR

end Observation

/-! ## Rules -/

section Rules

variable {seen seen' : Observation} {direction : Direction} {x y : Object} {scope : Scope}
  {typeName : String} {r : MemberRules}

theorem SkipIf.applies_rel {w : SkipIf} (hR : ∀ {v w}, R v w → v.isEmpty? = w.isEmpty?)
    (hseen : seen.Compares L R seen')
    (h : ∀ check, w = .custom check → ∀ skips,
      scope.resolve .skipPredicate Closure.skip? Closure.sharedSkip? check = .ok skips →
        ∀ e e', Entry.Compares R e e' → skips x e = skips y e') :
    L.Rel Eq (w.applies direction seen x scope) (w.applies direction seen' y scope) := by
  cases w with
  | always => exact L.refl _
  | isMissing => exact L.ok hseen.isAbsent
  | isNull => exact L.ok (by rw [hseen.isNull, hseen.isAbsent])
  | isEmpty => exact hseen.isEmpty hR
  | custom check =>
    exact L.bind_self fun skips hresolve => L.bind hseen.toEntry fun e e' hentry =>
      L.ok (h check rfl skips hresolve e e' hentry)

/-- The member is skipped in both runs or in none. -/
theorem MemberRules.shouldSkip_rel (hR : ∀ {v w}, R v w → v.isEmpty? = w.isEmpty?)
    (hseen : seen.Compares L R seen')
    (h : ∀ check, .custom check ∈ r.skipRules direction → ∀ skips,
      scope.resolve .skipPredicate Closure.skip? Closure.sharedSkip? check = .ok skips →
        ∀ e e', Entry.Compares R e e' → skips x e = skips y e') :
    L.Rel Eq (r.shouldSkip direction seen x scope) (r.shouldSkip direction seen' y scope) := by
  refine L.bind_eq (L.mapM_eq fun w hw => ?_) fun applied => L.refl _
  exact SkipIf.applies_rel hR hseen fun check hcheck => h check (hcheck ▸ hw)

/-- The same default is selected in both runs, or none. -/
theorem selectDefault_rel (hR : ∀ {v w}, R v w → v.isEmpty? = w.isEmpty?)
    (hseen : seen.Compares L R seen') (rules : List DefaultRule) :
    L.Rel (fun a b => a = b ∧ ∀ rule ∈ a, rule ∈ rules) (selectDefault seen rules)
      (selectDefault seen' rules) := by
  have hany : ∀ triggers, L.Rel Eq (selectDefault.anyApplies seen triggers)
      (selectDefault.anyApplies seen' triggers) := by
    intro triggers
    induction triggers with
    | nil => exact L.refl _
    | cons t rest ih =>
      refine L.bind_eq (hseen.triggers hR t) fun applies => ?_
      cases applies with
      | true => exact L.refl _
      | false => exact ih
  induction rules with
  | nil => exact L.ok ⟨rfl, nofun⟩
  | cons rule rest ih =>
    refine L.bind_eq (hany rule.triggers) fun applies => ?_
    cases applies with
    | true => exact L.ok ⟨rfl, by rintro _ ⟨⟩; exact List.mem_cons_self⟩
    | false => exact L.mono ih fun a b ⟨hab, hmem⟩ =>
        ⟨hab, fun rule hrule => List.mem_cons_of_mem _ (hmem rule hrule)⟩

/-- The same default applies in both runs, or none; the latter if there are none. -/
theorem MemberRules.findDefault_rel (hR : ∀ {v w}, R v w → v.isEmpty? = w.isEmpty?)
    (hseen : seen.Compares L R seen')
    (h : ∀ rule ∈ r.defaults, ∀ provide,
      scope.resolve .defaultProvider (Closure.provider? typeName) (Closure.sharedProvider? typeName)
        rule.provider = .ok provide → provide x = provide y) :
    L.Rel (fun a b => a = b ∧ (a.isSome → r.defaults ≠ [])) (r.findDefault typeName seen x scope)
      (r.findDefault typeName seen' y scope) := by
  refine L.bind (selectDefault_rel hR hseen r.defaults) ?_
  rintro selected _ ⟨rfl, hmem⟩
  cases selected with
  | none => exact L.ok ⟨rfl, nofun⟩
  | some rule =>
    refine L.bind_self fun provide hresolve =>
      L.ok ⟨?_, fun _ => List.ne_nil_of_mem (hmem rule rfl)⟩
    rw [h rule (hmem rule rfl) provide hresolve]

theorem AssertThat.holds_rel {rule : AssertThat} {d e : Datum} (hnull : d.isNull = e.isNull)
    (hempty : d.isEmpty? = e.isEmpty?)
    (h : ∀ check, rule = .custom check → ∀ accepts,
      scope.resolve .assertion (Closure.assertion? typeName) (Closure.sharedAssertion? typeName)
        check = .ok accepts → accepts x d = accepts y e) :
    L.Rel Eq (rule.holds typeName d x scope) (rule.holds typeName e y scope) := by
  cases rule with
  | notNull => exact L.ok (by rw [hnull])
  | notEmpty => exact L.ok (by rw [hnull, hempty])
  | custom check =>
    exact L.bind_self fun accepts hresolve => L.ok (h check rfl accepts hresolve)

/-- The assertions hold in both runs or in none. What is reported when one does not may show the
datum. -/
theorem MemberRules.checkAsserts_rel {d e : Datum} (hnull : d.isNull = e.isNull)
    (hempty : d.isEmpty? = e.isEmpty?)
    (h : ∀ check, .custom check ∈ r.asserts → ∀ accepts,
      scope.resolve .assertion (Closure.assertion? typeName) (Closure.sharedAssertion? typeName)
        check = .ok accepts → accepts x d = accepts y e) :
    L.Rel Eq (r.checkAsserts typeName d x scope) (r.checkAsserts typeName e y scope) := by
  refine L.forM fun rule hrule => ?_
  refine L.bind_eq (AssertThat.holds_rel hnull hempty fun check hcheck => h check (hcheck ▸ hrule))
    fun holds => ?_
  cases holds with
  | true => exact L.refl _
  | false => exact L.error rfl

end Rules

/-! ## Members -/

namespace Member

/-- Naming the member does not change the kind of an error. -/
theorem kind_writeError {τ : Type} (m : Member τ) (d : Datum) (e : Error) :
    (m.writeError d e).kind = e.kind := by
  rw [writeError]
  split
  · rfl
  · rename_i h
    rw [Error.isFinal, decide_eq_true_eq, not_not] at h
    exact h.symm

section Reading

variable {σ : Type} [Store σ] {m : Member Codec} {x y : Object}

/-- No closure that the member calls when it is read tells two objects apart. -/
structure ReadsBlindly (m : Member Codec) (x y : Object) : Prop where
  skips : ∀ check, .custom check ∈ m.rules.skipRules .reading → ∀ skips,
    m.scope.resolve .skipPredicate Closure.skip? Closure.sharedSkip? check = .ok skips →
      skips (m.owner x) = skips (m.owner y)
  defaults : ∀ rule ∈ m.rules.defaults, ∀ provide,
    m.scope.resolve .defaultProvider (Closure.provider? m.type.name)
      (Closure.sharedProvider? m.type.name) rule.provider = .ok provide →
      provide (m.owner x) = provide (m.owner y)
  asserts : ∀ check, .custom check ∈ m.rules.asserts → ∀ accepts,
    m.scope.resolve .assertion (Closure.assertion? m.type.name)
      (Closure.sharedAssertion? m.type.name) check = .ok accepts →
      accepts (m.owner x) = accepts (m.owner y)

/-- The member is to become the same, whichever of the objects it is read into. -/
theorem toRead_rel (h : m.ReadsBlindly x y) (o : Options) (source : σ) :
    L.Rel Eq (m.toRead o source x) (m.toRead o source y) := by
  have hchecked : ∀ d, L.Rel Eq
      (do m.rules.checkAsserts m.type.name d (m.owner x) m.scope
          return some d : Result (Option Datum))
      (do m.rules.checkAsserts m.type.name d (m.owner y) m.scope
          return some d) := fun d =>
    L.bind_eq (MemberRules.checkAsserts_rel rfl rfl fun check hcheck accepts hresolve =>
      congrFun (h.asserts check hcheck accepts hresolve) d) fun _ => L.refl _
  have hskips : ∀ check, .custom check ∈ m.rules.skipRules .reading → ∀ skips,
      m.scope.resolve .skipPredicate Closure.skip? Closure.sharedSkip? check = .ok skips →
        ∀ e e', Entry.Compares Eq e e' → skips (m.owner x) e = skips (m.owner y) e' := by
    intro check hcheck skips hresolve e e' hentry
    rw [h.skips check hcheck skips hresolve, hentry.eq]
  have hempty : ∀ {v w : Value}, v = w → v.isEmpty? = w.isEmpty? := congrArg _
  refine L.bind_eq (MemberRules.shouldSkip_rel hempty (.entry _) hskips) fun skips => ?_
  cases skips with
  | true => exact L.refl _
  | false =>
    refine L.bind (MemberRules.findDefault_rel hempty (.entry _) h.defaults) ?_
    rintro default _ ⟨rfl, -⟩
    cases default with
    | some d => exact hchecked d
    | none => exact L.bind_eq (L.refl _) hchecked

end Reading

section Writing

variable {τ : Type} {m : Member τ} {f g : τ → Codec} {o : Options} {x y : Object}

/-- The data that a member is written as in two runs: its own ones, or the same default. -/
def PairedData (m : Member τ) (x y : Object) (d e : Datum) : Prop :=
  d = e ∨ d = m.get x ∧ e = m.get y

/-- What has to be known of a member that is written out of two objects, with two codecs for its
type, to compare the runs. -/
structure ComparesWriting (L : Comparison) (R : Value → Value → Prop) (m : Member τ)
    (f g : τ → Codec) (o : Options) (x y : Object) : Prop where
  name : (g m.type).name = (f m.type).name
  constraint : (g m.type).constraint = (f m.type).constraint
  null : (m.get x).isNull = (m.get y).isNull
  empty : (m.get x).isEmpty? = (m.get y).isEmpty?
  native : L.Rel R ((f m.type).toNative o (m.get x)) ((g m.type).toNative o (m.get y))
  skips : ∀ check, .custom check ∈ m.rules.skipRules .writing → ∀ skips,
    m.scope.resolve .skipPredicate Closure.skip? Closure.sharedSkip? check = .ok skips →
      ∀ e e', Entry.Compares R e e' → skips (m.owner x) e = skips (m.owner y) e'
  defaults : ∀ rule ∈ m.rules.defaults, ∀ provide,
    m.scope.resolve .defaultProvider (Closure.provider? (f m.type).name)
      (Closure.sharedProvider? (f m.type).name) rule.provider = .ok provide →
      provide (m.owner x) = provide (m.owner y)
  /-- Defaults may be any data. -/
  defaultNatives : m.rules.defaults ≠ [] →
    ∀ d, L.Rel R ((f m.type).toNative o d) ((g m.type).toNative o d)
  asserts : ∀ check, .custom check ∈ m.rules.asserts → ∀ accepts,
    m.scope.resolve .assertion (Closure.assertion? (f m.type).name)
      (Closure.sharedAssertion? (f m.type).name) check = .ok accepts →
      ∀ d e, m.PairedData x y d e → accepts (m.owner x) d = accepts (m.owner y) e

theorem ComparesWriting.isNull_eq (h : m.ComparesWriting L R f g o x y) {d e : Datum}
    (hpaired : m.PairedData x y d e) : d.isNull = e.isNull := by
  obtain rfl | ⟨rfl, rfl⟩ := hpaired
  · rfl
  · exact h.null

theorem ComparesWriting.isEmpty?_eq (h : m.ComparesWriting L R f g o x y) {d e : Datum}
    (hpaired : m.PairedData x y d e) : d.isEmpty? = e.isEmpty? := by
  obtain rfl | ⟨rfl, rfl⟩ := hpaired
  · rfl
  · exact h.empty

theorem native_rel {d e : Datum}
    (h : L.Rel R ((f m.type).toNative o d) ((g m.type).toNative o e)) :
    L.Rel R ((m.mapType f).native o d) ((m.mapType g).native o e) :=
  L.mapError (kind_writeError _ d) (kind_writeError _ e) h

theorem ComparesWriting.observed (h : m.ComparesWriting L R f g o x y) :
    ((m.mapType f).observed x ((m.mapType f).ownNative o x)).Compares L R
      ((m.mapType g).observed y ((m.mapType g).ownNative o y)) := by
  have hown : L.Rel R ((m.mapType f).ownNative o x).get ((m.mapType g).ownNative o y).get :=
    native_rel h.native
  rw [Member.observed, Member.observed, Observation.ofDatum, Observation.ofDatum]
  rw [show ((m.mapType g).get y).isNull = ((m.mapType f).get x).isNull from h.null.symm,
    show ((m.mapType g).get y).isEmpty? = ((m.mapType f).get x).isEmpty? from h.empty.symm]
  exact .datum hown

/-- In both runs the member is written as its own datum, or as the same default, and the native
forms are related. -/
theorem substituted_rel (hR : L.Carries o.registry R) (h : m.ComparesWriting L R f g o x y) :
    L.Rel (fun p q => m.PairedData x y p.1 q.1 ∧ R p.2 q.2)
      ((m.mapType f).substituted o x ((m.mapType f).ownNative o x))
      ((m.mapType g).substituted o y ((m.mapType g).ownNative o y)) := by
  have hdefault : L.Rel (fun a b => a = b ∧ (a.isSome → m.rules.defaults ≠ []))
      ((m.mapType f).rules.findDefault (m.mapType f).type.name
        ((m.mapType f).observed x ((m.mapType f).ownNative o x)) (m.owner x) m.scope)
      ((m.mapType g).rules.findDefault (m.mapType g).type.name
        ((m.mapType g).observed y ((m.mapType g).ownNative o y)) (m.owner y) m.scope) := by
    rw [show (m.mapType g).type.name = (m.mapType f).type.name from h.name]
    exact MemberRules.findDefault_rel hR.isEmpty? h.observed h.defaults
  refine L.bind hdefault ?_
  rintro default _ ⟨rfl, hsome⟩
  cases default with
  | some d =>
    refine L.bind (native_rel (h.defaultNatives (hsome rfl) d)) fun v w hvw => ?_
    exact L.ok ⟨.inl rfl, hvw⟩
  | none => exact L.bind (native_rel h.native) fun v w hvw => L.ok ⟨.inr ⟨rfl, rfl⟩, hvw⟩

/-- In both runs the member is left out, or it is stored as related values. -/
theorem toWrite_rel (hR : L.Carries o.registry R) (h : m.ComparesWriting L R f g o x y) :
    L.Rel (Option.Rel fun p q => R p.2 q.2) ((m.mapType f).toWrite o x)
      ((m.mapType g).toWrite o y) := by
  refine L.bind_eq (MemberRules.shouldSkip_rel hR.isEmpty? h.observed h.skips) fun skips => ?_
  cases skips with
  | true => exact L.ok .none
  | false =>
    refine L.bind (substituted_rel hR h) ?_
    rintro ⟨d, native⟩ ⟨e, native'⟩ ⟨hpaired, hnative⟩
    have hchecked : L.Rel Eq
        ((m.mapType f).rules.checkAsserts (m.mapType f).type.name d (m.owner x) m.scope)
        ((m.mapType g).rules.checkAsserts (m.mapType g).type.name e (m.owner y) m.scope) := by
      rw [show (m.mapType g).type.name = (m.mapType f).type.name from h.name]
      exact MemberRules.checkAsserts_rel (h.isNull_eq hpaired) (h.isEmpty?_eq hpaired)
        fun check hcheck accepts hresolve => h.asserts check hcheck accepts hresolve d e hpaired
    have hstored : L.Rel R
        ((o.registry.write native (m.mapType f).type.constraint).mapError
          ((m.mapType f).writeError d))
        ((o.registry.write native' (m.mapType g).type.constraint).mapError
          ((m.mapType g).writeError e)) := by
      rw [show (m.mapType g).type.constraint = (m.mapType f).type.constraint from h.constraint]
      exact L.mapError (kind_writeError _ d) (kind_writeError _ e) (hR.write hnative _)
    exact L.bind_eq hchecked fun _ => L.bind hstored fun v w hvw => L.ok (.some hvw)

end Writing

end Member

/-! ## Runs that write -/

/-- The store after members have been written into it, if none of them fails. -/
def writeMembersOver {σ : Type} [Store σ] (o : Options) (x : Object) (ms : List (Member Codec))
    (s : σ) : Result σ :=
  (writeMembers o x ms s).1.map fun _ => (writeMembers o x ms s).2

section Runs

variable {σ : Type} [Store σ] {S : σ → σ → Prop} {s s' : σ} {o : Options} {x y : Object}

/-- The store after a value has been stored for a member, if that does not fail. -/
def Member.storeOver (m : Member Codec) (o : Options) (d : Datum) (v : Value) (s : σ) : Result σ :=
  (m.store o d v s).1.map fun _ => (m.store o d v s).2

/-- The store after a member has been written, given what is written for it. -/
def Member.depositOver (m : Member Codec) (o : Options) (s : σ) : Option (Datum × Value) → Result σ
  | none => .ok s
  | some (d, v) => m.storeOver o d v s

theorem writeMembersOver_cons (m : Member Codec) (ms : List (Member Codec)) (s : σ) :
    writeMembersOver o x (m :: ms) s
      = (m.toWrite o x >>= m.depositOver o s) >>= writeMembersOver o x ms := by
  rw [writeMembersOver, writeMembers, Member.write]
  cases m.toWrite o x with
  | error e => rfl
  | ok r =>
    cases r with
    | none => rfl
    | some p =>
      obtain ⟨d, v⟩ := p
      cases hstore : m.store o d v s with
      | mk r s' =>
        have hover : m.storeOver o d v s = r.map fun _ => s' := by rw [Member.storeOver, hstore]
        dsimp only [bind, Except.bind, Member.depositOver]
        rw [hover, hstore]
        cases r <;> rfl

variable {τ : Type} {m : Member τ} {f g : τ → Codec} {ms : List (Member τ)}

/-- Storing related values comes to the same, whichever datum is named when it fails. -/
theorem Member.storeOver_rel (hS : Store.Follows R S) (m : Member τ) (d e : Datum) {v w : Value}
    (hvw : R v w) (hs : S s s') :
    L.Rel S ((m.mapType f).storeOver o d v s) ((m.mapType g).storeOver o e w s') := by
  have hreported : ∀ {α : Type} {r r' : Result α} {s s' : σ},
      L.Rel (fun _ _ => True) r r' → S s s' →
      L.Rel S ((r.mapError ((m.mapType f).writeError d)).map fun _ => s)
        ((r'.mapError ((m.mapType g).writeError e)).map fun _ => s') := fun hr hs =>
    L.map (L.mapError (kind_writeError _ d) (kind_writeError _ e) hr) fun _ _ _ => hs
  obtain ⟨hset, hstores⟩ := hS.set hs hvw ((m.mapType f).key o)
  simp only [storeOver, store, storeComment,
    show (m.mapType g).key o = (m.mapType f).key o from rfl,
    show (m.mapType g).rules = (m.mapType f).rules from rfl]
  generalize Store.set s [(m.mapType f).key o] v = p at hset hstores ⊢
  generalize Store.set s' [(m.mapType f).key o] w = q at hset hstores ⊢
  obtain ⟨r, s₁⟩ := p
  obtain ⟨r', s₁'⟩ := q
  cases hset with
  | error h => exact hreported (α := Unit) (L.error (h.resolve_right id)) hstores
  | ok _ =>
    cases (m.mapType f).rules.comment? with
    | none => exact L.ok hstores
    | some text =>
      obtain ⟨hcomment, hstores'⟩ := hS.setComment hstores ((m.mapType f).key o) text
      dsimp only at hstores ⊢
      rw [hS.supportsComments hstores]
      split
      · exact hreported (L.map (L.of_agree hcomment) fun _ _ _ => trivial) hstores'
      · exact L.ok hstores

/-- Runs come to the same if what is stored for each member does. -/
theorem writeMembersOver_rel (hS : Store.Follows R S)
    (h : ∀ m ∈ ms, L.Rel (Option.Rel fun p q => R p.2 q.2) ((m.mapType f).toWrite o x)
      ((m.mapType g).toWrite o y)) (hs : S s s') :
    L.Rel S (writeMembersOver o x (ms.map (·.mapType f)) s)
      (writeMembersOver o y (ms.map (·.mapType g)) s') := by
  induction ms generalizing s s' with
  | nil => exact L.ok hs
  | cons m rest ih =>
    obtain ⟨hm, hrest⟩ := List.forall_mem_cons.mp h
    rw [List.map_cons, List.map_cons, writeMembersOver_cons, writeMembersOver_cons]
    refine L.bind (L.bind hm fun a b hab => ?_) fun _ _ => ih hrest
    cases hab with
    | none => exact L.ok hs
    | some hvw => exact Member.storeOver_rel hS m _ _ hvw hs

/-- The store after an object has been written into it, if that does not fail. -/
def Schema.writeOver (schema : Schema Codec) (o : Options) (x : Object) (s : σ) : Result σ :=
  (schema.write o x s).1.map fun _ => (schema.write o x s).2

theorem Schema.toTree_eq_writeOver (schema : Schema Codec) (o : Options) (x : Object) :
    schema.toTree o x = schema.writeOver o x Tree.empty := rfl

/-- Two objects of a type in a table come to the same if what is stored for their members does, with
so many objects inside one another below them. -/
theorem TypeTable.writeOver_rel {ts : TypeTable} {k k' : Nat} {t : ObjectType MemberType}
    (hS : Store.Follows R S)
    (h : ∀ m ∈ t.schema.members, o.includes m = true →
      L.Rel (Option.Rel fun p q => R p.2 q.2) ((ts.member k m).toWrite o x)
        ((ts.member k' m).toWrite o y)) (hs : S s s') :
    L.Rel S ((t.mapType (ts.codecAt k)).schema.writeOver o x s)
      ((t.mapType (ts.codecAt k')).schema.writeOver o y s') := by
  have hrun := writeMembersOver_rel hS (fun m (hm : m ∈ t.schema.members.filter o.includes) =>
    h m (List.mem_filter.mp hm).1 (List.mem_filter.mp hm).2) hs
  have hmembers : ∀ k, (t.mapType (ts.codecAt k)).schema.members.filter o.includes
      = (t.schema.members.filter o.includes).map (·.mapType (ts.codecAt k)) := fun k =>
    ts.filter_members k o t
  rwa [← hmembers, ← hmembers] at hrun

end Runs

end ConfigBinding
