import ConfigBinding.Error
import ConfigBinding.Object.Datum
import ConfigBinding.Tree.Entry

/-!
# Named rules

A table holds closures under names. One name may hold several closures of different shapes, and a
look-up takes the first one of the shape that it asks for; closures of other shapes under the same
name neither get in its way nor count as an answer.

There are two families of shapes. In the table of an object type a closure is given the object. In
the table of a companion, which serves many object types, it is not.

An assertion or a provider is of the shape that is asked for only if it is about the same type of
member. Types are identified by names here (`MemberType.name`): types that are to be told apart have
different names, and of one name there is one type.
-/

namespace ConfigBinding

/-- Decides from the object and what is observed of a member whether the member is skipped. -/
abbrev SkipPredicate := Object → Entry → Bool

/-- Decides from the object and the datum of a member whether the datum is valid. -/
abbrev Assertion := Object → Datum → Bool

/-- Gives the default of a member, from the object. -/
abbrev Provider := Object → Datum

/-- A closure of a table. Assertions and providers belong to one type of member, which the name
identifies. -/
inductive Closure where
  | skip (skips : SkipPredicate)
  | assertion (typeName : String) (holds : Assertion)
  | provider (typeName : String) (provide : Provider)
  | sharedSkip (skips : Entry → Bool)
  | sharedAssertion (typeName : String) (holds : Datum → Bool)
  | sharedProvider (typeName : String) (datum : Datum)
  /-- A thing that no rule can use. -/
  | other

namespace Closure

/-- The closure as a skip predicate of an object type. -/
def skip? : Closure → Option SkipPredicate
  | .skip p => some p
  | _ => none

/-- The closure as a skip predicate of a companion. -/
def sharedSkip? : Closure → Option SkipPredicate
  | .sharedSkip p => some fun _ entry => p entry
  | _ => none

/-- The closure as an assertion of an object type about members of the type that `typeName`
identifies. -/
def assertion? (typeName : String) : Closure → Option Assertion
  | .assertion name p => if name = typeName then some p else none
  | _ => none

/-- The closure as an assertion of a companion about members of the type that `typeName`
identifies. -/
def sharedAssertion? (typeName : String) : Closure → Option Assertion
  | .sharedAssertion name p => if name = typeName then some fun _ d => p d else none
  | _ => none

/-- The closure as a provider of an object type for members of the type that `typeName`
identifies. -/
def provider? (typeName : String) : Closure → Option Provider
  | .provider name p => if name = typeName then some p else none
  | _ => none

/-- The closure as a provider of a companion for members of the type that `typeName`
identifies. -/
def sharedProvider? (typeName : String) : Closure → Option Provider
  | .sharedProvider name d => if name = typeName then some fun _ => d else none
  | _ => none

end Closure

/-- The closures of a type by name, in the order in which they were added. -/
structure RuleTable where
  owner : String
  entries : List (String × Closure) := []

namespace RuleTable

/-- Adds a closure behind the ones added before. -/
def insert (t : RuleTable) (name : String) (closure : Closure) : RuleTable :=
  { t with entries := t.entries ++ [(name, closure)] }

/-- The closures under a name. -/
def named (t : RuleTable) (name : String) : List Closure :=
  (t.entries.filter (·.1 = name)).map (·.2)

/-- Whether there is a closure under a name, whatever its shape. -/
def contains (t : RuleTable) (name : String) : Bool := !(t.named name).isEmpty

/-- The first closure under a name that has a shape. -/
def find? {α : Type} (t : RuleTable) (name : String) (shape : Closure → Option α) : Option α :=
  (t.named name).findSome? shape

/-- The names, each once, in ascending order. -/
def names (t : RuleTable) : List String := (Keyed.keys (Keyed.sorted t.entries)).eraseDups

/-- The text of a table in inspection. -/
def inspect (t : RuleTable) : String :=
  inspectFields "RuleTable"
    [("owner", Text.Quoted.string t.owner),
     ("names", enclosed "[" "]" (t.names.map Text.Quoted.string))]

end RuleTable

/-- A type whose table serves other types. -/
structure Companion where
  name : String
  table : RuleTable

/-- The text of a companion in inspection. -/
def Companion.inspect (c : Companion) : String :=
  inspectCall "Companion" [Text.Quoted.string c.name]

/-- How a rule finds its closure. -/
inductive Check (α : Type) where
  /-- The closure itself. -/
  | inline (closure : α)
  /-- A name, looked up in the table of the declaring type and then in that of the companion. -/
  | named (name : String) (companion : Option Companion)
  /-- Nothing to find a closure by, which is an error when the rule is used. -/
  | unset

/-- The text of a check in inspection. -/
def Check.inspect {α : Type} : Check α → String
  | .inline _ => inspectCall "Inline" [".."]
  | .named name companion =>
    inspectFields "Named"
      [("name", Text.Quoted.string name),
       ("companion", inspectOption (companion.map Companion.inspect))]
  | .unset => "Unset"

/-- The member whose rules are looked at, and the table of the type that declares it. -/
structure Scope where
  member : String
  declaringType : String
  table : RuleTable

namespace Scope

/-- The error about a rule of the member. -/
def error (s : Scope) (fault : RuleFault) : Error :=
  .ruleResolution s.member s.declaringType fault

/-- What the look-up of a name fails with: the name is of no use if it is known at all. -/
def notFound (s : Scope) (role : RuleRole) (name : String) (companion : Option Companion) :
    RuleFault :=
  let searched := s.table.owner :: (companion.map Companion.name).toList
  if s.table.contains name || companion.any (·.table.contains name) then
    .notApplicable name role searched
  else .unknown name role searched

/-- The closure of a check: its own one, else the first one of the shape `own` in the table of the
declaring type, else the first one of the shape `shared` in that of the companion. -/
def resolve {α : Type} (s : Scope) (role : RuleRole) (own shared : Closure → Option α) :
    Check α → Result α
  | .inline closure => .ok closure
  | .unset => .error (s.error (.unset role))
  | .named name companion =>
    match s.table.find? name own with
    | some closure => .ok closure
    | none =>
      match companion.bind (·.table.find? name shared) with
      | some closure => .ok closure
      | none => .error (s.error (s.notFound role name companion))

end Scope

end ConfigBinding
