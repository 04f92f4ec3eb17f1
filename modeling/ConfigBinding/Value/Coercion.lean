import ConfigBinding.Error

/-!
# Values as plain data

What a value gives when an integer, a float, a truth value or a text is asked for. Nothing is
rounded into an integer: a number counts as one only if it is one.
-/

namespace ConfigBinding.Value

open Numeric

attribute [local instance (2000)] instPowNat

/-- The value as a 64-bit integer. -/
def toInt64 : Value → Result Int64
  | .number n =>
    match n.toInt64? with
    | some i => .ok i
    | none => .error (.ofFault (.notInt64 n))
  | .bigInt n =>
    if -2 ^ (63 : Nat) ≤ n ∧ n < 2 ^ (63 : Nat) then .ok (Int64.ofInt n)
    else .error (.ofFault (.outOfRange n "i64"))
  | v => .error (.ofFault (.expected "integer" v))

/-- The value as a float. -/
def toFloat : Value → Result Binary64
  | .number n => .ok n.toFloat
  | v => .error (.ofFault (.expected "number" v))

/-- The value as a truth value. -/
def toBool : Value → Result Bool
  | .bool b => .ok b
  | v => .error (.ofFault (.expected "bool" v))

/-- The value as a text. -/
def toText : Value → Result String
  | .string s => .ok s
  | v => .error (.ofFault (.expected "string" v))

end ConfigBinding.Value
