import ConfigBinding.Keyed
import ConfigBinding.Numeric.Binary
import ConfigBinding.Time.Instant

/-!
# Configuration values

A configuration is a tree of values. Its branches are lists and maps from keys to values, and
beside the entries a map carries comments, which are not values and may also belong to keys that
hold none. Two kinds of number are kept apart: 64-bit integers, and double-precision floats; an
integer outside 64 bits is a value of its own kind.
-/

namespace ConfigBinding

open Numeric Time

attribute [local instance (2000)] instPowNat

/-- A number of a configuration. -/
inductive Number where
  | integer (n : Int64)
  | float (x : Binary64)
  deriving DecidableEq

mutual

/-- A value of a configuration. -/
inductive Value where
  /-- The marker for "nothing", which is a value unlike an absent entry. -/
  | null
  | bool (b : Bool)
  | number (n : Number)
  | string (s : String)
  | list (items : List Value)
  | config (tree : Tree)
  | dateTime (t : Instant)
  /-- An integer of any size. -/
  | bigInt (n : Int)

/-- A map of a configuration: entries and comments, each in the order in which they came. -/
structure Tree where
  entries : List (String × Value)
  comments : List (String × String)

end

instance : Inhabited Value := ⟨.null⟩

/-- The map without entries and comments. -/
def Tree.empty : Tree := ⟨[], []⟩

instance : Inhabited Tree := ⟨Tree.empty⟩

namespace Number

/-- Whether the number is an integer by kind; a whole float is not. -/
def isInteger : Number → Bool
  | .integer _ => true
  | .float _ => false

/-- The number as a 64-bit integer, if it is one in value. -/
def toInt64? : Number → Option Int64
  | .integer n => some n
  | .float x =>
    match x.toInt? with
    | some k => if -2 ^ (63 : Nat) ≤ k ∧ k < 2 ^ (63 : Nat) then some (Int64.ofInt k) else none
    | none => none

/-- The number as a float; an integer goes to the nearest one. -/
def toFloat : Number → Binary64
  | .integer n => Binary.ofInt .double n.toInt
  | .float x => x

/-- Equality of kind and value: a NaN equals nothing, and an integer no float. -/
def equals : Number → Number → Bool
  | .integer m, .integer n => m = n
  | .float x, .float y => x.equals y
  | _, _ => false

end Number

namespace Value

/-- Whether the value is the null marker. -/
def isNull : Value → Bool
  | .null => true
  | _ => false

/-- Whether the value is a string. -/
def isString : Value → Bool
  | .string _ => true
  | _ => false

/-- Whether the value is a map. -/
def isConfig : Value → Bool
  | .config _ => true
  | _ => false

/-- The map that the value is, if it is one. -/
def config? : Value → Option Tree
  | .config tree => some tree
  | _ => none

/-- Whether the value is a list. -/
def isList : Value → Bool
  | .list _ => true
  | _ => false

/-- Whether there is nothing in the value; only strings, lists and maps can be empty. -/
def isEmpty? : Value → Option Bool
  | .string s => some s.isEmpty
  | .list items => some items.isEmpty
  | .config tree => some tree.entries.isEmpty
  | _ => none

/-- What a message calls the kind of a value. -/
def kindName : Value → String
  | .null => "null"
  | .bool _ => "bool"
  | .number (.integer _) => "integer"
  | .number (.float _) => "float"
  | .string _ => "string"
  | .list _ => "list"
  | .config _ => "config"
  | .dateTime _ => "date-time"
  | .bigInt _ => "big integer"

/-- The value of an integer: of the 64-bit kind where that has it, else a big integer. -/
def ofInt (n : Int) : Value :=
  if -2 ^ (63 : Nat) ≤ n ∧ n < 2 ^ (63 : Nat) then .number (.integer (Int64.ofInt n)) else .bigInt n

@[simp] theorem isNull_ofInt (n : Int) : (ofInt n).isNull = false := by
  unfold ofInt
  split <;> rfl

@[simp] theorem isEmpty?_ofInt (n : Int) : (ofInt n).isEmpty? = none := by
  unfold ofInt
  split <;> rfl

end Value

end ConfigBinding
