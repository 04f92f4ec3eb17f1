import ConfigBinding.Error
import ConfigBinding.Numeric.IntType

/-!
# Values handed to a reader

A value hands itself to a reader as one piece of plain data: nothing, a truth value, a number, a
text, a list, or a map. Comments are not handed over, a date-time arrives as its RFC 3339 text, and
a big integer as the narrowest of the integers that has it: unsigned of 64 bits, signed of 128,
unsigned of 128, and beyond these its decimal text.

A reader that wants something else fails with a `Refusal`.
-/

namespace ConfigBinding.Bridge

open Numeric

/-- What a value hands to a reader. -/
inductive Incoming where
  | unit
  | bool (b : Bool)
  | integer (type : IntType) (n : Int)
  | float (x : Binary64)
  | str (s : String)
  | seq (items : List Value)
  | map (entries : List (String × Value))

/-- How a big integer arrives. -/
def Incoming.ofBig (n : Int) : Incoming :=
  if IntType.u64.contains n then .integer .u64 n
  else if IntType.i128.contains n then .integer .i128 n
  else if IntType.u128.contains n then .integer .u128 n
  else .str (toString n)

/-- How a value arrives. -/
def Incoming.of : Value → Incoming
  | .null => .unit
  | .bool b => .bool b
  | .number (.integer n) => .integer .i64 n.toInt
  | .number (.float x) => .float x
  | .string s => .str s
  | .list items => .seq items
  | .config tree => .map tree.entries
  | .dateTime t => .str t.toRfc3339
  | .bigInt n => Incoming.ofBig n

/-- The name of what arrived, for a reader that has no use for it. -/
def Incoming.describe : Incoming → String
  | .unit => "unit value"
  | .bool b => "boolean `" ++ toString b ++ "`"
  | .integer type n =>
    let text := "integer `" ++ toString n ++ "`"
    if type.bits = 128 then text ++ " as " ++ type.name else text
  | .float x => "floating point `" ++ Layout.pointed.write x ++ "`"
  | .str s => "string " ++ Text.Quoted.string s
  | .seq _ => "sequence"
  | .map _ => "map"

/-- Why a reader has no use for what arrived. -/
inductive Refusal where
  /-- What arrived is of another kind than the one expected. -/
  | wrongType (found : Incoming) (expected : String)
  /-- What arrived is of the right kind, but this one does not exist in the type. -/
  | wrongValue (found expected : String)
  /-- A list is too short. -/
  | wrongLength (length : Nat) (expected : String)
  /-- A variant that the type does not have. -/
  | unknownVariant (name : String) (variants : List String)
  /-- A field that the type does not have. -/
  | unknownField (name : String) (fields : List String)
  /-- A field that the map does not have. -/
  | missingField (name : String)
  /-- A variant was expected. -/
  | notVariant (found : Value)
  /-- The content of a variant is of another kind than the one expected. -/
  | wrongContent (expected : String)
  /-- A value of a map was asked for before its key. -/
  | valueBeforeKey

/-- What there is instead of an unknown name; `plural` says what the names are of. -/
def alternatives (plural : String) (names : List String) : String :=
  match names.map fun n => "`" ++ n ++ "`" with
  | [] => "there are no " ++ plural
  | [a] => "expected " ++ a
  | [a, b] => "expected " ++ a ++ " or " ++ b
  | more => "expected one of " ++ ", ".intercalate more

/-- The text of a refusal. -/
def Refusal.message : Refusal → String
  | .wrongType found expected => "invalid type: " ++ found.describe ++ ", expected " ++ expected
  | .wrongValue found expected => "invalid value: " ++ found ++ ", expected " ++ expected
  | .wrongLength length expected =>
    "invalid length " ++ toString length ++ ", expected " ++ expected
  | .unknownVariant name variants =>
    "unknown variant `" ++ name ++ "`, " ++ alternatives "variants" variants
  | .unknownField name fields => "unknown field `" ++ name ++ "`, " ++ alternatives "fields" fields
  | .missingField name => "missing field `" ++ name ++ "`"
  | .notVariant found => "expected an enum variant, found " ++ found.kindName
  | .wrongContent expected => "expected " ++ expected
  | .valueBeforeKey => "next_value_seed called before next_key_seed"

/-- A refusal as an error. -/
def Refusal.error (r : Refusal) : Error := .custom r.message

/-- Fails with a refusal. -/
def refuse {α : Type} (r : Refusal) : Result α := .error r.error

end ConfigBinding.Bridge
