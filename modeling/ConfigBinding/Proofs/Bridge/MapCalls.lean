import ConfigBinding.Proofs.Bridge.Scripts
import Mathlib.Data.List.Induction

/-!
# Maps from calls in any order

A map is described by two kinds of call: a key is given, and a value is given. Nothing makes a
description alternate between them. The builder remembers one key, but what a sequence of calls comes
to can be said of the sequence alone:

* it is accepted if each key has a text and a key waits before each value, that is, a key was given
  since the value before it (`MapCall.Acceptable`);
* each value then belongs to the most recent key (`MapCall.PairUp`), and of a text that comes again
  the first position and the last value count (`Keyed.Collects`), so keys without a value leave
  nothing.

The induction is on the calls made so far, from the last one backwards. `MapCall.Built` is what a
builder knows of them: a further call extends it, or is refused for a reason that later calls cannot
mend (`MapCall.built_or_refused`). The main statement is `toValue_describesMap`.
-/

namespace ConfigBinding.Bridge

/-- A call of the description of a map, with the value that its argument converts to. -/
inductive MapCall where
  | key (k : Value)
  | value (v : Value)

namespace MapCall

variable {calls before rest : List MapCall} {call : MapCall} {pairs : List (String × Value)}
  {m : MapBuilder} {k v : Value} {text : String}

/-- The key that a call gives, if it gives one. -/
def key? : MapCall → Option Value
  | .key k => some k
  | .value _ => none

/-- The value that a call gives, if it gives one. -/
def value? : MapCall → Option Value
  | .key _ => none
  | .value v => some v

/-! ## What is said of the calls alone -/

/-- The value can be a key, and the text is the one that it has as a key. -/
inductive HasText : Value → String → Prop where
  | string (s : String) : HasText (.string s) s
  | number (n : Number) : HasText (.number n) n.display
  | bool (b : Bool) : HasText (.bool b) (toString b)

/-- A key was given, and no value since. -/
def KeyWaits (calls : List MapCall) : Prop :=
  ∃ front k back, calls = front ++ .key k :: back ∧ ∀ call ∈ back, call.value? = none

/-- The most recent key. -/
def IsLastKey (calls : List MapCall) (k : Value) : Prop :=
  ∃ front back, calls = front ++ .key k :: back ∧ ∀ call ∈ back, call.key? = none

/-- Each key is a string, a number or a truth value, and each value comes when a key waits. -/
structure Acceptable (calls : List MapCall) : Prop where
  texts : ∀ k, .key k ∈ calls → ∃ text, HasText k text
  waits : ∀ before v after, calls = before ++ .value v :: after → KeyWaits before

/-- The pairs hold the values in the order in which they were given, each with the text of the key
that was the most recent one then. -/
structure PairUp (calls : List MapCall) (pairs : List (String × Value)) : Prop where
  values : pairs.map (·.2) = calls.filterMap value?
  keys : ∀ before v after, calls = before ++ .value v :: after → ∃ k text, IsLastKey before k
    ∧ HasText k text ∧ pairs[(before.filterMap value?).length]? = some (text, v)

/-- What the calls describe: a map if they are acceptable, and otherwise an error in words. -/
structure DescribesMap (calls : List MapCall) (result : Result Value) : Prop where
  succeeds_iff : (∃ v, result = .ok v) ↔ Acceptable calls
  holds : ∀ v, result = .ok v → ∃ pairs entries, PairUp calls pairs ∧ Keyed.Collects pairs entries
    ∧ v = .config ⟨entries, []⟩
  refuses : ∀ e, result = .error e → ∃ message, e = .custom message

/-! ## One call more -/

/-- A value in a longer sequence stands in the shorter one with the same calls before it, or it is the
last call. -/
theorem split_snoc {after : List MapCall} (h : calls ++ [call] = before ++ .value v :: after) :
    (∃ after', calls = before ++ .value v :: after') ∨ calls = before ∧ call = .value v := by
  rcases List.eq_nil_or_concat after with rfl | ⟨after', last, rfl⟩
  · obtain ⟨rfl, hcall⟩ := List.append_inj' h rfl
    exact .inr ⟨rfl, List.head_eq_of_cons_eq hcall⟩
  · rw [List.concat_eq_append, ← List.cons_append, ← List.append_assoc] at h
    exact .inl ⟨after', (List.append_inj' h rfl).1⟩

/-- Where calls give keys and values only, a key waits if the last call gave one. -/
theorem keyWaits_iff : KeyWaits calls ↔ ∃ front k, calls = front ++ [.key k] := by
  constructor
  · rintro ⟨front, k, back, rfl, hback⟩
    rcases List.eq_nil_or_concat back with rfl | ⟨back', last, rfl⟩
    · exact ⟨front, k, rfl⟩
    · rw [List.concat_eq_append] at hback ⊢
      have hlast : last.value? = none := hback last (by simp)
      cases last with
      | key k' => exact ⟨front ++ .key k :: back', k', by simp⟩
      | value v => cases hlast
  · rintro ⟨front, k, rfl⟩
    exact ⟨front, k, [], rfl, nofun⟩

theorem not_keyWaits_snoc_value : ¬ KeyWaits (calls ++ [.value v]) := by
  intro h
  obtain ⟨front, k, heq⟩ := keyWaits_iff.mp h
  have hlast := (List.append_inj' heq rfl).2
  cases hlast

theorem Acceptable.of_append (h : Acceptable (calls ++ rest)) : Acceptable calls := by
  refine ⟨fun k hk => h.texts k (List.mem_append_left _ hk), fun before v after heq => ?_⟩
  apply h.waits before v (after ++ rest)
  rw [heq, List.append_assoc, List.cons_append]

theorem Acceptable.snoc_key (h : Acceptable calls) (htext : HasText k text) :
    Acceptable (calls ++ [.key k]) := by
  refine ⟨fun k' hk' => ?_, fun before v after heq => ?_⟩
  · rcases List.mem_append.mp hk' with hk' | hk'
    · exact h.texts k' hk'
    · obtain rfl : k' = k := by simpa using hk'
      exact ⟨text, htext⟩
  · rcases split_snoc heq with ⟨after', heq⟩ | ⟨-, hcall⟩
    · exact h.waits before v after' heq
    · cases hcall

theorem Acceptable.snoc_value (h : Acceptable calls) (hwaits : KeyWaits calls) :
    Acceptable (calls ++ [.value v]) := by
  refine ⟨fun k hk => ?_, fun before w after heq => ?_⟩
  · exact h.texts k (by simpa using hk)
  · rcases split_snoc heq with ⟨after', heq⟩ | ⟨rfl, -⟩
    · exact h.waits before w after' heq
    · exact hwaits

/-- A key alone adds no pair. -/
theorem PairUp.snoc_key (h : PairUp calls pairs) : PairUp (calls ++ [.key k]) pairs := by
  refine ⟨?_, fun before v after heq => ?_⟩
  · rw [h.values, List.filterMap_append]
    exact (List.append_nil _).symm
  · rcases split_snoc heq with ⟨after', heq⟩ | ⟨-, hcall⟩
    · exact h.keys before v after' heq
    · cases hcall

/-- A value adds a pair, with the key that was given last. -/
theorem PairUp.snoc_value (h : PairUp calls pairs) (hlast : IsLastKey calls k)
    (htext : HasText k text) :
    PairUp (calls ++ [.value v]) (pairs ++ [(text, v)]) := by
  have hlength : (calls.filterMap value?).length = pairs.length := by
    rw [← h.values, List.length_map]
  refine ⟨?_, fun before w after heq => ?_⟩
  · rw [List.map_append, List.filterMap_append, h.values]
    rfl
  · rcases split_snoc heq with ⟨after', heq⟩ | ⟨rfl, hcall⟩
    · obtain ⟨k', text', hlast', htext', hpair⟩ := h.keys before w after' heq
      refine ⟨k', text', hlast', htext', ?_⟩
      obtain ⟨hlt, -⟩ := List.getElem?_eq_some_iff.mp hpair
      rw [List.getElem?_append_left hlt, hpair]
    · obtain rfl : v = w := MapCall.value.inj hcall
      refine ⟨k, text, hlast, htext, ?_⟩
      rw [hlength, List.getElem?_concat_length]

/-! ## The builder -/

/-- The builder takes a call. -/
def take (m : MapBuilder) : MapCall → Result MapBuilder
  | .key k => m.giveKey k
  | .value v => do
    let waiting ← m.takeKey
    return m.giveValue waiting v

/-- What the builder knows of the calls made so far: the entries that they pair up to, and the text
of the key that waits. -/
structure Built (calls : List MapCall) (m : MapBuilder) : Prop where
  acceptable : Acceptable calls
  stored : ∃ pairs, PairUp calls pairs ∧ Keyed.Collects pairs m.entries
  waiting : ∀ text, m.pending = some text →
    ∃ front k, calls = front ++ [.key k] ∧ HasText k text
  nothing : m.pending = none → ¬ KeyWaits calls

theorem built_start : Built [] .start where
  acceptable := ⟨nofun, fun before v after h => by simp at h⟩
  stored := ⟨[], ⟨rfl, fun before v after h => by simp at h⟩, rfl, fun _ => rfl⟩
  waiting := nofun
  nothing _ := by
    rintro ⟨front, k, back, h, -⟩
    simp at h

/-- A key has a text, or it is refused in words. -/
theorem keyText_cases (k : Value) : (∃ text, MapBuilder.keyText k = .ok text ∧ HasText k text)
    ∨ (∃ message, MapBuilder.keyText k = .error (.custom message)) ∧ ¬ ∃ text, HasText k text := by
  cases k with
  | string s => exact .inl ⟨s, rfl, .string s⟩
  | number n => exact .inl ⟨n.display, rfl, .number n⟩
  | bool b => exact .inl ⟨toString b, rfl, .bool b⟩
  | _ => exact .inr ⟨⟨_, rfl⟩, nofun⟩

/-- A call more is taken, or it is refused, and then the calls are not acceptable. -/
theorem Built.taken_or_refused (h : Built calls m) (call : MapCall) :
    (∃ m', call.take m = .ok m' ∧ Built (calls ++ [call]) m')
      ∨ (∃ message, call.take m = .error (.custom message)) ∧ ¬ Acceptable (calls ++ [call]) := by
  obtain ⟨pairs, hpairs, hcollects⟩ := h.stored
  cases call with
  | key k =>
    rcases keyText_cases k with ⟨text, hkey, htext⟩ | ⟨⟨message, hkey⟩, hnone⟩
    · refine .inl ⟨{ m with pending := some text }, ?_, ?_⟩
      · simp only [MapCall.take, MapBuilder.giveKey, hkey, bind, Except.bind, pure, Except.pure]
      · refine ⟨h.acceptable.snoc_key htext, ⟨pairs, hpairs.snoc_key, hcollects⟩, ?_, ?_⟩
        · rintro _ ⟨⟩
          exact ⟨calls, k, rfl, htext⟩
        · rintro ⟨⟩
    · refine .inr ⟨⟨message, ?_⟩, fun haccept => hnone (haccept.texts k (by simp))⟩
      simp only [MapCall.take, MapBuilder.giveKey, hkey, bind, Except.bind]
  | value v =>
    cases hpending : m.pending with
    | some text =>
      obtain ⟨front, k, hcalls, htext⟩ := h.waiting text hpending
      have hlast : IsLastKey calls k := ⟨front, [], hcalls, List.forall_mem_nil _⟩
      refine .inl ⟨m.giveValue text v, ?_, ?_⟩
      · simp only [MapCall.take, MapBuilder.takeKey, hpending, bind, Except.bind, pure, Except.pure]
      · refine ⟨h.acceptable.snoc_value (keyWaits_iff.mpr ⟨front, k, hcalls⟩),
          ⟨_, hpairs.snoc_value hlast htext, hcollects.snoc (text, v)⟩, ?_,
          fun _ => not_keyWaits_snoc_value⟩
        rintro _ ⟨⟩
    | none =>
      refine .inr ⟨⟨"serialize_value called without serialize_key", ?_⟩, fun haccept => ?_⟩
      · simp only [MapCall.take, MapBuilder.takeKey, hpending, bind, Except.bind]
      · exact h.nothing hpending (haccept.waits calls v [] rfl)

/-- A sequence of calls is taken, or it is refused, and then it is not acceptable. -/
theorem built_or_refused (calls : List MapCall) :
    (∃ m, calls.foldlM (fun m call => call.take m) .start = .ok m ∧ Built calls m)
      ∨ (∃ message, calls.foldlM (fun m call => call.take m) MapBuilder.start
          = .error (.custom message)) ∧ ¬ Acceptable calls := by
  induction calls using List.reverseRecOn with
  | nil => exact .inl ⟨.start, rfl, built_start⟩
  | append_singleton calls call ih =>
    have hlast : ∀ m, [call].foldlM (fun m call => call.take m) m = call.take m :=
      fun m => bind_pure _
    simp only [List.foldlM_append, hlast]
    rcases ih with ⟨m, hrun, hbuilt⟩ | ⟨⟨message, hrun⟩, hrefused⟩
    · rw [hrun]
      exact hbuilt.taken_or_refused call
    · rw [hrun]
      exact .inr ⟨⟨message, rfl⟩, fun haccept => hrefused haccept.of_append⟩

end MapCall

/-! ## From scripts to calls -/

/-- The steps make the calls, one or two each: their keys and values convert to those of the calls. -/
inductive MakeCalls : List MapStep → List MapCall → Prop where
  | nil : MakeCalls [] []
  | entry {key value : Script} {k v : Value} {steps : List MapStep} {calls : List MapCall}
    (hkey : key.toValue = .ok k) (hvalue : value.toValue = .ok v) (h : MakeCalls steps calls) :
    MakeCalls (.entry key value :: steps) (.key k :: .value v :: calls)
  | key {key : Script} {k : Value} {steps : List MapStep} {calls : List MapCall}
    (hkey : key.toValue = .ok k) (h : MakeCalls steps calls) :
    MakeCalls (.key key :: steps) (.key k :: calls)
  | value {value : Script} {v : Value} {steps : List MapStep} {calls : List MapCall}
    (hvalue : value.toValue = .ok v) (h : MakeCalls steps calls) :
    MakeCalls (.value value :: steps) (.value v :: calls)

variable {steps : List MapStep} {calls : List MapCall}

/-- A run of steps is a run of their calls. -/
theorem runSteps_eq_foldlM (h : MakeCalls steps calls) (m : MapBuilder) :
    runSteps m steps = calls.foldlM (fun m call => call.take m) m := by
  induction h generalizing m with
  | nil => rfl
  | entry hkey hvalue _ ih =>
    simp only [runSteps, MapStep.run, hkey, hvalue, List.foldlM_cons, MapCall.take, bind_assoc, ih]
    rfl
  | key hkey _ ih =>
    simp only [runSteps, MapStep.run, hkey, List.foldlM_cons, MapCall.take, bind_assoc, ih]
    rfl
  | value hvalue _ ih =>
    simp only [runSteps, MapStep.run, hvalue, List.foldlM_cons, MapCall.take, bind_assoc, ih]
    rfl

/-- A description of a map makes a map of its calls, in whatever order keys and values are given, or
it fails. -/
theorem toValue_describesMap (h : MakeCalls steps calls) :
    MapCall.DescribesMap calls (Script.map steps).toValue := by
  rw [Script.toValue, runSteps_eq_foldlM h]
  rcases MapCall.built_or_refused calls with ⟨m, hrun, hbuilt⟩ | ⟨⟨message, hrun⟩, hrefused⟩
  · obtain ⟨pairs, hpairs, hcollects⟩ := hbuilt.stored
    rw [hrun]
    refine ⟨⟨fun _ => hbuilt.acceptable, fun _ => ⟨_, rfl⟩⟩, ?_, ?_⟩
    · rintro _ ⟨⟩
      exact ⟨pairs, m.entries, hpairs, hcollects, rfl⟩
    · rintro _ ⟨⟩
  · rw [hrun]
    refine ⟨⟨?_, fun haccept => absurd haccept hrefused⟩, ?_, ?_⟩
    · rintro ⟨_, ⟨⟩⟩
    · rintro _ ⟨⟩
    · rintro _ ⟨⟩
      exact ⟨message, rfl⟩

namespace Example

/-- A key that is replaced, a number and a text with one text, and a key that is left over. -/
def routeSteps : List MapStep :=
  [.key (.str "old"), .key (.integer .i32 1), .value (.bool true), .entry (.str "b") .unit,
    .entry (.str "1") (.bool false), .key (.bool true)]

/-- The number and the text share the first position and the last value; a value without a key makes
the description fail. -/
theorem describesMap_routes :
    MakeCalls routeSteps [.key (.string "old"), .key (.ofInt 1), .value (.bool true),
        .key (.string "b"), .value .null, .key (.string "1"), .value (.bool false),
        .key (.bool true)]
      ∧ MapCall.DescribesMap [.key (.string "old"), .key (.ofInt 1), .value (.bool true),
        .key (.string "b"), .value .null, .key (.string "1"), .value (.bool false),
        .key (.bool true)] (.ok (.config ⟨[("1", .bool false), ("b", .null)], []⟩))
      ∧ MapCall.DescribesMap [.key (.string "a"), .value .null, .value (.bool true)]
        (.error (.custom "serialize_value called without serialize_key")) := by
  have hroutes : MakeCalls routeSteps [.key (.string "old"), .key (.ofInt 1), .value (.bool true),
      .key (.string "b"), .value .null, .key (.string "1"), .value (.bool false),
      .key (.bool true)] :=
    .key rfl (.key rfl (.value rfl (.entry rfl rfl (.entry rfl rfl (.key rfl .nil)))))
  have hrefused : MakeCalls [.entry (.str "a") .unit, .value (.bool true)]
      [.key (.string "a"), .value .null, .value (.bool true)] :=
    .entry rfl rfl (.value rfl .nil)
  exact ⟨hroutes, toValue_describesMap hroutes, toValue_describesMap hrefused⟩

end Example

end ConfigBinding.Bridge
