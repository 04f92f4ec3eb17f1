/-!
# Integers as text

Reading an integer of 64 bits: an optional sign, and then ASCII digits only.
-/

namespace ConfigBinding.Numeric

attribute [local instance (2000)] instPowNat

/-- The value of digits; `none` when there is none, or another character among them. -/
def readDigits? (cs : List Char) : Option Nat :=
  if cs.isEmpty || !cs.all Char.isDigit then none
  else some (cs.foldl (fun n c => 10 * n + (c.toNat - '0'.toNat)) 0)

/-- The integer that a text spells. -/
def readInt? : List Char → Option Int
  | '+' :: cs => (readDigits? cs).map Int.ofNat
  | '-' :: cs => (readDigits? cs).map fun n => -(n : Int)
  | cs => (readDigits? cs).map Int.ofNat

/-- The integer of 64 bits that a text spells. -/
def readInt64? (cs : List Char) : Option Int64 :=
  match readInt? cs with
  | some n => if -2 ^ (63 : Nat) ≤ n ∧ n < 2 ^ (63 : Nat) then some (Int64.ofInt n) else none
  | none => none

end ConfigBinding.Numeric
