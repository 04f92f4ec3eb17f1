/-!
# Integer types

The fixed-width integer types, each with its name and its range.
-/

namespace ConfigBinding.Numeric

attribute [local instance (2000)] instPowNat

/-- The integer types. `isize` and `usize` have 64 bits. -/
inductive IntType where
  | i8
  | i16
  | i32
  | i64
  | i128
  | isize
  | u8
  | u16
  | u32
  | u64
  | u128
  | usize
  deriving DecidableEq, Repr

namespace IntType

/-- The name of the type. -/
def name : IntType → String
  | i8 => "i8"
  | i16 => "i16"
  | i32 => "i32"
  | i64 => "i64"
  | i128 => "i128"
  | isize => "isize"
  | u8 => "u8"
  | u16 => "u16"
  | u32 => "u32"
  | u64 => "u64"
  | u128 => "u128"
  | usize => "usize"

/-- The number of bits. -/
def bits : IntType → Nat
  | i8 | u8 => 8
  | i16 | u16 => 16
  | i32 | u32 => 32
  | i64 | u64 | isize | usize => 64
  | i128 | u128 => 128

/-- Whether the type has negative numbers. -/
def isSigned : IntType → Bool
  | i8 | i16 | i32 | i64 | i128 | isize => true
  | u8 | u16 | u32 | u64 | u128 | usize => false

/-- The least number of the type. -/
def least (t : IntType) : Int := if t.isSigned then -2 ^ (t.bits - 1) else 0

/-- The greatest number of the type. -/
def greatest (t : IntType) : Int := if t.isSigned then 2 ^ (t.bits - 1) - 1 else 2 ^ t.bits - 1

/-- Whether the type has the number. -/
def contains (t : IntType) (n : Int) : Bool := t.least ≤ n && n ≤ t.greatest

/-- The numbers of a type are those of its range. -/
theorem contains_iff {t : IntType} {n : Int} :
    t.contains n = true ↔ t.least ≤ n ∧ n ≤ t.greatest := by
  simp [contains]

/-- No type has more than 128 bits. -/
theorem bits_le (t : IntType) : t.bits ≤ 128 := by
  cases t <;> decide

/-- Whether the type has numbers beyond the signed ones of 64 bits. -/
def isWide (t : IntType) : Bool := !i64.contains t.least || !i64.contains t.greatest

end IntType

end ConfigBinding.Numeric
