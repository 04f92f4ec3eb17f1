import ConfigBinding.Rule.Basic

/-!
# What rules decide

Rules look at a member through an `Observation`. When reading, that is the entry of the tree. When
writing, it is the member's datum, together with the native form that the datum would be stored
from: a rule looks at the native form only if the datum does not answer by itself, so a native form
that cannot be made fails no rule that has no need of it. The native form of an object holds those
of all objects inside, so it is made at most once, and only when a rule asks for it.

A rule whose closure cannot be found is an error and never counts as "no". All skip rules are
looked at even after one has matched, so that such an error always comes to light; of the defaults,
only the one that applies is.
-/

namespace ConfigBinding

/-- What rules see of a member. -/
inductive Observation where
  /-- An entry of a tree. -/
  | entry (e : Entry)
  /-- A datum: whether it is null, whether it is empty, and its native form. -/
  | datum (null : Bool) (empty : Option Bool) (native : Thunk (Result Value))

namespace Observation

/-- The observation of a datum with a native form. -/
def ofDatum (d : Datum) (native : Thunk (Result Value)) : Observation :=
  .datum d.isNull d.isEmpty? native

/-- Whether the tree has no entry. -/
def isAbsent : Observation → Bool
  | .entry e => e.isAbsent
  | .datum _ _ _ => false

/-- Whether the member is null. -/
def isNull : Observation → Bool
  | .entry e => e.isNull
  | .datum null _ _ => null

/-- Whether the member is empty. What is null is not empty. -/
def isEmpty : Observation → Result Bool
  | .entry e => .ok e.isEmpty
  | .datum true _ _ => .ok false
  | .datum false (some empty) _ => .ok empty
  | .datum false none native => (fun v => v.isEmpty? = some true) <$> native.get

/-- The member as an entry of a tree. -/
def toEntry : Observation → Result Entry
  | .entry e => .ok e
  | .datum true _ _ => .ok .null
  | .datum false _ native => (fun v => Entry.of (some v)) <$> native.get

/-- Whether a trigger applies. -/
def triggers (o : Observation) : Trigger → Result Bool
  | .isMissing => .ok o.isAbsent
  | .isNull => .ok o.isNull
  | .isEmpty => o.isEmpty

end Observation

namespace SkipIf

/-- Whether a condition for skipping applies. -/
def applies (direction : Direction) (o : Observation) (object : Object) (scope : Scope) :
    SkipIf → Result Bool
  | .always => .ok true
  | .isMissing => .ok o.isAbsent
  | .isNull => .ok (o.isNull || (direction = .reading && o.isAbsent))
  | .isEmpty => o.isEmpty
  | .custom check => do
    let skips ← scope.resolve .skipPredicate Closure.skip? Closure.sharedSkip? check
    let entry ← o.toEntry
    return skips object entry

end SkipIf

/-- The first default that one of its triggers applies to. Triggers behind the first one that
applies are not looked at. -/
def selectDefault (o : Observation) : List DefaultRule → Result (Option DefaultRule)
  | [] => .ok none
  | rule :: rest => do
    if ← anyApplies rule.triggers then return some rule else selectDefault o rest
where
  /-- Whether one of some triggers applies. -/
  anyApplies : List Trigger → Result Bool
    | [] => .ok false
    | t :: rest => do
      if ← o.triggers t then return true else anyApplies rest

namespace AssertThat

/-- Whether an assertion holds of a datum of a type. -/
def holds (typeName : String) (d : Datum) (object : Object) (scope : Scope) :
    AssertThat → Result Bool
  | .notNull => .ok !d.isNull
  | .notEmpty => .ok (!d.isNull && d.isEmpty? ≠ some true)
  | .custom check => do
    let holds ← scope.resolve .assertion (Closure.assertion? typeName)
      (Closure.sharedAssertion? typeName) check
    return holds object d

end AssertThat

namespace MemberRules

/-- Whether a member is skipped: one of the skip rules of the direction applies. -/
def shouldSkip (r : MemberRules) (direction : Direction) (o : Observation) (object : Object)
    (scope : Scope) : Result Bool := do
  let applied ← (r.skipRules direction).mapM fun rule => rule.applies direction o object scope
  return applied.any id

/-- The default of a member of a type, if one applies. -/
def findDefault (r : MemberRules) (typeName : String) (o : Observation) (object : Object)
    (scope : Scope) : Result (Option Datum) := do
  match ← selectDefault o r.defaults with
  | none => return none
  | some rule =>
    let provide ← scope.resolve .defaultProvider (Closure.provider? typeName)
      (Closure.sharedProvider? typeName) rule.provider
    return some (provide object)

/-- Checks the assertions on a datum of a type, in their order; the first one that does not hold,
or cannot be looked at, is the error. -/
def checkAsserts (r : MemberRules) (typeName : String) (d : Datum) (object : Object)
    (scope : Scope) : Result Unit :=
  r.asserts.forM fun rule => do
    if ← rule.holds typeName d object scope then pure ()
    else throw (.assertion scope.member scope.declaringType d.inspect)

end MemberRules

end ConfigBinding
