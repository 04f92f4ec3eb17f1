import ConfigBinding.Plain.Datum
import ConfigBinding.Rule.Basic

/-!
# Closures as data

A small language for the closures of rules: conditions on what is observed of a member, conditions
on its datum, and sources of a default. Conditions look at data in their plain form, so one
condition makes sense for members of any type; a comparison holds only of data that has the form
which it is about.
-/

namespace ConfigBinding

attribute [local instance (2000)] instPowNat

/-- The states of an entry. -/
inductive EntryState where
  | absent
  | null
  | present
  deriving DecidableEq, Repr

/-- The state of an entry. -/
def Entry.state : Entry → EntryState
  | .absent => .absent
  | .null => .null
  | .present _ => .present

/-- Whether a slot of an object has a plain form. -/
def Object.slotHas (o : Object) (slot : String) (p : Plain) : Bool :=
  ((o.get? slot).map fun d => d.toPlain.equals p).getD false

/-- A condition on what is observed of a member. -/
inductive EntryCondition where
  | const (b : Bool)
  | not (c : EntryCondition)
  | all (cs : List EntryCondition)
  /-- A slot of the object has a plain form. -/
  | slotEquals (slot : String) (p : Plain)
  | state (s : EntryState)
  /-- A value of a kind is there. -/
  | kind (name : String)
  | empty
  /-- An equal value is there. -/
  | value (v : Value)

mutual

/-- Whether a condition holds of an entry of a member of an object. -/
def EntryCondition.holds (o : Object) (e : Entry) : EntryCondition → Bool
  | .const b => b
  | .not c => !c.holds o e
  | .all cs => allEntryConditions o e cs
  | .slotEquals slot p => o.slotHas slot p
  | .state s => e.state = s
  | .kind name => (e.value?.map fun v => decide (v.kindName = name)).getD false
  | .empty => e.isEmpty
  | .value v => (e.value?.map fun w => w.equals v).getD false

/-- Whether all of some conditions hold. -/
def allEntryConditions (o : Object) (e : Entry) : List EntryCondition → Bool
  | [] => true
  | c :: rest => c.holds o e && allEntryConditions o e rest

end

/-- A condition on the datum of a member. -/
inductive DatumCondition where
  | const (b : Bool)
  | not (c : DatumCondition)
  | all (cs : List DatumCondition)
  /-- A slot of the object has a plain form. -/
  | slotEquals (slot : String) (p : Plain)
  /-- The datum has a plain form. -/
  | equals (p : Plain)
  /-- The datum is not less than a bound; both have to be 64-bit integers. -/
  | atLeast (bound : Plain)
  /-- The datum is not greater than a bound; both have to be 64-bit integers. -/
  | atMost (bound : Plain)
  /-- The datum is not less than that of a slot; both have to be 64-bit integers. -/
  | atLeastSlot (slot : String)
  /-- A text of so many characters, or a list of so many items. -/
  | minLength (n : Nat)

/-- The 64-bit integer that plain data is. -/
def Plain.int64? : Plain → Option Int
  | .integer n => if -2 ^ (63 : Nat) ≤ n ∧ n < 2 ^ (63 : Nat) then some n else none
  | _ => none

/-- The number of characters of a text, or of items of a list. -/
def Plain.length? : Plain → Option Nat
  | .text s => some s.length
  | .list items => some items.length
  | _ => none

/-- Whether a relation holds between two things that are both there. -/
def related {α : Type} (holds : α → α → Bool) : Option α → Option α → Bool
  | some a, some b => holds a b
  | _, _ => false

mutual

/-- Whether a condition holds of the plain form of a datum of a member of an object. -/
def DatumCondition.holds (o : Object) (d : Plain) : DatumCondition → Bool
  | .const b => b
  | .not c => !c.holds o d
  | .all cs => allDatumConditions o d cs
  | .slotEquals slot p => o.slotHas slot p
  | .equals p => d.equals p
  | .atLeast bound => related (fun (k n : Int) => k ≥ n) d.int64? bound.int64?
  | .atMost bound => related (fun (k n : Int) => k ≤ n) d.int64? bound.int64?
  | .atLeastSlot slot =>
    related (fun (k n : Int) => k ≥ n) d.int64? ((o.get? slot).bind fun d => d.toPlain.int64?)
  | .minLength n => related (fun (k n : Nat) => k ≥ n) d.length? (some n)

/-- Whether all of some conditions hold. -/
def allDatumConditions (o : Object) (d : Plain) : List DatumCondition → Bool
  | [] => true
  | c :: rest => c.holds o d && allDatumConditions o d rest

end

/-- Where a default comes from. -/
inductive Source where
  | const (d : Datum)
  /-- A copy of what a slot of the object holds. -/
  | slot (name : String)

/-- The condition as a skip predicate. -/
def EntryCondition.predicate (c : EntryCondition) : SkipPredicate := fun o e => c.holds o e

/-- The condition as an assertion. -/
def DatumCondition.assertion (c : DatumCondition) : Assertion := fun o d => c.holds o d.toPlain

/-- The source as a provider. -/
def Source.provider : Source → Provider
  | .const d => fun _ => d
  | .slot name => fun o => o.get name

/-- What is no object: companions are given none. -/
def Object.none : Object := ⟨"", []⟩

/-- The condition for a companion. -/
def EntryCondition.shared (c : EntryCondition) (e : Entry) : Bool := c.holds .none e

/-- The condition for a companion. -/
def DatumCondition.shared (c : DatumCondition) (d : Datum) : Bool := c.holds .none d.toPlain

end ConfigBinding
