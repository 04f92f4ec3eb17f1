import ConfigBinding.Proofs.Rule.SkipDecision
import ConfigBinding.Proofs.Schema.Run
import ConfigBinding.Rule.Condition

/-!
# Members that are never written

A rule that always applies leaves a member out whenever its object is written. Nothing of the member
needs to be converted for that. But the other rules are evaluated, too, and one that asks whether
the member is empty may have to make the native form of its datum: that of an object, say, which
does not know by itself whether it is empty (`Member.NeedsNative`). If the native form cannot be
made, because an assertion of the object does not hold or a converter refuses, the whole run fails
because of a member that it would not have written.

This is the only way in which such a member can fail when none of its rules asks a closure, and the
store is left as it is in any case (`Member.staysOut`).
-/

namespace ConfigBinding

/-! ## The question -/

namespace Observation

variable {seen : Observation} {e e' : Error}

/-- There is only one reason why it is not known whether a member is empty. -/
theorem EmptinessUnknown.unique (h : seen.EmptinessUnknown e) (h' : seen.EmptinessUnknown e') :
    e = e' :=
  Except.error.inj ((isEmpty_eq_error.mpr h).symm.trans (isEmpty_eq_error.mpr h'))

/-- A datum leaves it open whether it is empty if it is not null, does not say, and has no native
form that could tell. -/
theorem emptinessUnknown_ofDatum {d : Datum} {native : Thunk (Result Value)} :
    (ofDatum d native).EmptinessUnknown e
      ↔ d.isNull = false ∧ d.isEmpty? = none ∧ native.get = .error e := by
  unfold ofDatum
  constructor
  · intro h
    generalize d.isNull = null, d.isEmpty? = empty at h
    cases h with
    | native hnative => exact ⟨rfl, rfl, hnative⟩
  · rintro ⟨hnull, hempty, hnative⟩
    rw [hnull, hempty]
    exact .native hnative

end Observation

namespace MemberRules

/-- The member is never written, and no closure has a say in it: of the rules that count when its
object is written, one always applies, and the others ask whether the member is missing, null or
empty. -/
structure AlwaysSkips (r : MemberRules) : Prop where
  always : r.Counts .writing .always
  builtin : ∀ check, ¬ r.Counts .writing (.custom check)

namespace AlwaysSkips

variable {r : MemberRules} {seen : Observation} {object : Object} {scope : Scope} {e : Error}

/-- Among such rules, only one that asks whether the member is empty can fail. -/
theorem emptinessUnknown_of_failsWith (h : r.AlwaysSkips) {w : SkipIf} (hw : r.Counts .writing w)
    (hfails : w.FailsWith seen scope e) : w = .isEmpty ∧ seen.EmptinessUnknown e := by
  cases hfails with
  | isEmpty hunknown => exact ⟨rfl, hunknown⟩
  | unresolved _ => exact absurd hw (h.builtin _)
  | entry _ _ => exact absurd hw (h.builtin _)

/-- The question whether to skip the member fails exactly if the rules ask whether it is empty, and
that cannot be known. -/
theorem shouldSkip_eq_error (h : r.AlwaysSkips) :
    r.shouldSkip .writing seen object scope = .error e
      ↔ r.Counts .writing .isEmpty ∧ seen.EmptinessUnknown e := by
  have hunknown : ∀ e', r.shouldSkip .writing seen object scope = .error e' →
      r.Counts .writing .isEmpty ∧ seen.EmptinessUnknown e' := by
    intro e' herror
    obtain ⟨before, w, after, hsplit, hfails, -⟩ := MemberRules.shouldSkip_eq_error.mp herror
    have hw : r.Counts .writing w :=
      mem_skipRules.mp (hsplit ▸ List.mem_append_right before List.mem_cons_self)
    obtain ⟨rfl, he'⟩ := h.emptinessUnknown_of_failsWith hw hfails
    exact ⟨hw, he'⟩
  refine ⟨hunknown e, ?_⟩
  rintro ⟨hasks, he⟩
  obtain ⟨e', herror⟩ := shouldSkip_fails.mpr ⟨.isEmpty, mem_skipRules.mpr hasks, e, .isEmpty he⟩
  rw [herror, (hunknown e' herror).2.unique he]

/-- If the question does not fail, the answer is yes. -/
theorem eq_true_of_shouldSkip (h : r.AlwaysSkips) {b : Bool}
    (hanswer : r.shouldSkip .writing seen object scope = .ok b) : b = true :=
  (shouldSkip_eq_ok.mp hanswer).2.mpr ⟨.always, mem_skipRules.mpr h.always, .always⟩

end AlwaysSkips

end MemberRules

/-! ## The member -/

namespace Member

/-- The rules need the native form of the member's datum: they ask whether it is empty, and it is
not null and does not say. -/
structure NeedsNative (m : Member Codec) (x : Object) : Prop where
  asks : m.rules.Counts .writing .isEmpty
  notNull : (m.get x).isNull = false
  untold : (m.get x).isEmpty? = none

/-- What comes of a member that is not to be written. -/
structure StaysOut {σ : Type} [Store σ] (m : Member Codec) (o : Options) (x : Object) (s : σ) :
    Prop where
  /-- Nothing is written, not even if there is an error. -/
  untouched : (m.write o x s).2 = s
  /-- There is no error unless the rules need a native form that cannot be made. -/
  succeeds : m.write o x s = (.ok (), s)
    ↔ ¬ (m.NeedsNative x ∧ ∃ e, m.native o (m.get x) = .error e)
  /-- If they do, the error is the one that the native form has. -/
  fails : ∀ e, m.write o x s = (.error e, s) ↔ m.NeedsNative x ∧ m.native o (m.get x) = .error e

variable {σ : Type} [Store σ] {m : Member Codec} {o : Options} {x : Object}

/-- The question whether to skip the member fails exactly if the rules need a native form that
cannot be made. -/
theorem skipsWriting_eq_error (h : m.rules.AlwaysSkips) {e : Error} :
    m.skipsWriting o x = .error e ↔ m.NeedsNative x ∧ m.native o (m.get x) = .error e := by
  have hown : (m.ownNative o x).get = m.native o (m.get x) := rfl
  unfold skipsWriting observed
  rw [h.shouldSkip_eq_error, Observation.emptinessUnknown_ofDatum, hown]
  constructor
  · rintro ⟨hasks, hnull, hempty, hnative⟩
    exact ⟨⟨hasks, hnull, hempty⟩, hnative⟩
  · rintro ⟨⟨hasks, hnull, hempty⟩, hnative⟩
    exact ⟨hasks, hnull, hempty, hnative⟩

/-- A member fails, and writes nothing, when it cannot be said whether to skip it. -/
theorem write_of_skipsWriting_eq_error {e : Error} (h : m.skipsWriting o x = .error e) (s : σ) :
    m.write o x s = (.error e, s) := by
  have htoWrite : m.toWrite o x = .error e := Result.bind_eq_error.mpr (.inl h)
  rw [write, htoWrite]

/-- A member that is skipped succeeds, and writes nothing. -/
theorem write_of_skipsWriting (h : m.skipsWriting o x = .ok true) (s : σ) :
    m.write o x s = (.ok (), s) := by
  rw [write, toWrite_of_skipsWriting h]

/-- A member that is always skipped is left out of every object and every store. It fails only if
its rules need the native form of its datum, and then with the error of that. -/
theorem staysOut (h : m.rules.AlwaysSkips) (o : Options) (x : Object) (s : σ) :
    m.StaysOut o x s := by
  cases hskip : m.skipsWriting o x with
  | error e =>
    have hwrite := write_of_skipsWriting_eq_error hskip s
    have hnative := (skipsWriting_eq_error h).mp hskip
    refine ⟨congrArg Prod.snd hwrite, ?_, ?_⟩
    · rw [hwrite]
      exact ⟨nofun, fun hnot => absurd ⟨hnative.1, e, hnative.2⟩ hnot⟩
    · intro e'
      rw [hwrite, ← skipsWriting_eq_error h, hskip]
      simp only [Prod.mk.injEq, Except.error.injEq, and_true]
  | ok b =>
    obtain rfl := h.eq_true_of_shouldSkip hskip
    have hwrite := write_of_skipsWriting hskip s
    have hnative : ∀ e, ¬ (m.NeedsNative x ∧ m.native o (m.get x) = .error e) := by
      intro e hfails
      cases hskip.symm.trans ((skipsWriting_eq_error h).mpr hfails)
    refine ⟨congrArg Prod.snd hwrite, ?_, ?_⟩
    · refine ⟨?_, fun _ => hwrite⟩
      rintro - ⟨hneeds, e, he⟩
      exact hnative e ⟨hneeds, he⟩
    · intro e
      rw [hwrite]
      exact ⟨nofun, fun hfails => absurd hfails (hnative e)⟩

end Member

/-! ## The server behind a proxy

A proxy never writes the server behind it, so it should not matter that this one has no port yet,
without which a server cannot be written.
-/

namespace Example

/-- The type of servers behind a proxy. -/
def upstreamType : ObjectType MemberType where
  name := "Upstream"
  slots := [⟨"port", .integer .u16, .integer 0⟩]
  schema := ((SchemaBuilder.start "Upstream").field "port" "port" (.integer .u16)
    (MemberRules.add {}
      (.assert (.custom (.inline (DatumCondition.assertion (.atLeast (.integer 1)))))))).build

/-- The server behind a proxy, as a member of the proxy: it is always skipped, and for another
reason as well. -/
def upstream (reason : SkipIf) : Member Codec :=
  { name := "upstream", path := [], slot := "upstream", declaringType := "Proxy"
    type := TypeTable.codec { types := [upstreamType] } (.object "Upstream")
    rules := (MemberRules.add {} (.skip none .always)).add (.skip (some .writing) reason)
    table := ⟨"Proxy", []⟩ }

/-- A proxy for a server whose port is not set. -/
def proxy : Object := ⟨"Proxy", [("upstream", .object upstreamType.fresh)]⟩

theorem alwaysSkips_upstream {reason : SkipIf} (h : ∀ check, reason ≠ .custom check) :
    (upstream reason).rules.AlwaysSkips := by
  have hrules : (upstream reason).rules.skipRules .writing = [.always, reason] := rfl
  constructor
  · rw [← MemberRules.mem_skipRules, hrules]
    exact List.mem_cons_self
  · intro check
    rw [← MemberRules.mem_skipRules, hrules]
    rintro (_ | ⟨_, _ | ⟨_, ⟨⟩⟩⟩)
    exact h check rfl

/-- The server cannot be written, but the proxy is not bothered if it skips servers that are null,
too. -/
theorem staysOut_upstream :
    (upstream .isNull).rules.AlwaysSkips
      ∧ (upstream .isNull).native {} ((upstream .isNull).get proxy)
        = .error (.assertion "port" "Upstream" "0")
      ∧ (upstream .isNull).write {} proxy Tree.empty = (.ok (), Tree.empty) := by
  have hskips : (upstream .isNull).rules.AlwaysSkips := alwaysSkips_upstream nofun
  refine ⟨hskips, rfl, (Member.staysOut hskips {} proxy Tree.empty).succeeds.mpr ?_⟩
  rintro ⟨⟨hasks, -, -⟩, -⟩
  rw [← MemberRules.mem_skipRules] at hasks
  rcases hasks with _ | ⟨_, _ | ⟨_, ⟨⟩⟩⟩

/-- If it skips servers that are empty, too, then the proxy cannot be written, though it always
skips the server. -/
theorem write_upstream_refused :
    (upstream .isEmpty).rules.AlwaysSkips
      ∧ (upstream .isEmpty).write {} proxy Tree.empty
        = (.error (.assertion "port" "Upstream" "0"), Tree.empty)
      ∧ (upstream .isEmpty).write {} proxy Tree.empty ≠ (.ok (), Tree.empty) :=
  ⟨alwaysSkips_upstream nofun, rfl, nofun⟩

end Example

end ConfigBinding
