/-!
# Binary floating-point numbers

A number of a binary interchange format is its bit pattern, which has no more bits than the format,
with one rule added: there is a single NaN. No output of this library tells two NaNs apart, so
`Binary.ofBits` reads every NaN pattern as the same number, and equality of numbers is equality of
bits with all NaNs identified.

Arithmetic never uses the machine's floating point. A finite number is decoded into
`significand · 2 ^ exponent`, computed with exactly, and rounded once by `Binary.ofQuotient`, to
nearest with ties to even. So every statement about a number can be made on natural numbers.
-/

namespace ConfigBinding.Numeric

attribute [local instance (2000)] instPowNat

/-- A binary interchange format: how many bits its fraction and its exponent field have. -/
structure Format where
  fractionBits : Nat
  exponentBits : Nat
  deriving DecidableEq, Repr

namespace Format

/-- Double precision. -/
def double : Format := ⟨52, 11⟩

/-- Single precision. -/
def single : Format := ⟨23, 8⟩

/-- The number of bits, the sign included. -/
def width (f : Format) : Nat := 1 + f.exponentBits + f.fractionBits

/-- The exponent field of infinities and NaNs; every smaller field belongs to a finite number. -/
def specialField (f : Format) : Nat := 2 ^ f.exponentBits - 1

/-- The exponent of the last place of the smallest numbers. -/
def minExponent (f : Format) : Int := 2 - 2 ^ (f.exponentBits - 1) - f.fractionBits

/-- The bit pattern of positive infinity. -/
def infinityBits (f : Format) : Nat := f.specialField * 2 ^ f.fractionBits

/-- The bit of the sign. -/
def signBit (f : Format) : Nat := 2 ^ (f.exponentBits + f.fractionBits)

/-- The one NaN: no sign, and the top bit of the fraction set. -/
def nanBits (f : Format) : Nat := f.infinityBits + 2 ^ (f.fractionBits - 1)

/-- Whether a bit pattern is a NaN: past infinity, the sign left aside. -/
def isNaNBits (f : Format) (bits : Nat) : Bool := f.infinityBits < bits % f.signBit

/-- There are as many patterns with the sign as without. -/
theorem two_pow_width (f : Format) : 2 ^ f.width = 2 * f.signBit := by
  rw [width, signBit, Nat.add_assoc, Nat.pow_add, Nat.pow_one]

/-- Bits beyond the sign do not count. -/
theorem isNaNBits_mod (f : Format) (bits : Nat) :
    f.isNaNBits (bits % 2 ^ f.width) = f.isNaNBits bits := by
  rw [isNaNBits, isNaNBits, two_pow_width, Nat.mod_mod_of_dvd _ (Nat.dvd_mul_left _ _)]

theorem nanBits_lt (f : Format) : f.nanBits < 2 ^ f.width := by
  have hfraction : 2 ^ (f.fractionBits - 1) ≤ 2 ^ f.fractionBits :=
    Nat.pow_le_pow_right (by decide) (Nat.sub_le _ _)
  have hsign : f.infinityBits + 2 ^ f.fractionBits = f.signBit := by
    have hpos : 0 < 2 ^ f.exponentBits := Nat.two_pow_pos _
    rw [infinityBits, specialField, signBit, ← Nat.succ_mul, Nat.succ_eq_add_one,
      Nat.sub_add_cancel hpos, Nat.pow_add]
  have hpos : 0 < f.signBit := Nat.two_pow_pos _
  rw [two_pow_width, nanBits]
  omega

end Format

/-- A number of the format `f`: a bit pattern, with a single NaN. -/
structure Binary (f : Format) where
  bits : Nat
  bits_lt : bits < 2 ^ f.width
  nan_unique : f.isNaNBits bits = true → bits = f.nanBits
  deriving DecidableEq

/-- A double-precision number. -/
abbrev Binary64 := Binary Format.double

/-- A single-precision number. -/
abbrev Binary32 := Binary Format.single

/-- What a bit pattern stands for, the sign left aside. -/
inductive Magnitude where
  | nan
  | infinite
  /-- The number `significand * 2 ^ exponent`. -/
  | finite (significand : Nat) (exponent : Int)
  deriving DecidableEq, Repr

namespace Binary

variable {f : Format}

/-- The one NaN. -/
def nan (f : Format) : Binary f := ⟨f.nanBits, f.nanBits_lt, fun _ => rfl⟩

/-- The number with the given bit pattern; every NaN pattern gives the one NaN. Bits beyond those
of the format are dropped. -/
def ofBits (f : Format) (bits : Nat) : Binary f :=
  if h : f.isNaNBits bits = true then nan f
  else
    { bits := bits % 2 ^ f.width
      bits_lt := Nat.mod_lt _ (Nat.two_pow_pos _)
      nan_unique := fun h' => absurd (f.isNaNBits_mod bits ▸ h') h }

/-- The exponent field of the bit pattern. -/
def exponentField (x : Binary f) : Nat := x.bits / 2 ^ f.fractionBits % 2 ^ f.exponentBits

/-- The fraction field of the bit pattern. -/
def fractionField (x : Binary f) : Nat := x.bits % 2 ^ f.fractionBits

/-- Whether the sign bit is set. A NaN has no sign. -/
def isNegative (x : Binary f) : Bool := x.bits ≥ f.signBit

/-- The number without its sign. An exponent field of zero has no hidden bit, and the exponent of
the field one. -/
def magnitude (x : Binary f) : Magnitude :=
  if x.exponentField = f.specialField then
    if x.fractionField = 0 then .infinite else .nan
  else if x.exponentField = 0 then
    .finite x.fractionField f.minExponent
  else
    .finite (2 ^ f.fractionBits + x.fractionField) (f.minExponent + (x.exponentField - 1 : Nat))

/-- Whether the number is the NaN. -/
def isNaN (x : Binary f) : Bool := x.magnitude = .nan

/-- Whether the number is neither an infinity nor the NaN. -/
def isFinite (x : Binary f) : Bool :=
  match x.magnitude with
  | .finite _ _ => true
  | _ => false

/-- The quotient `num / den`, rounded to the nearest natural number, a tie going to the even one. -/
def roundDiv (num den : Nat) : Nat :=
  let quotient := num / den
  let twice := 2 * (num % den)
  if twice < den then quotient
  else if den < twice then quotient + 1
  else if quotient % 2 = 0 then quotient else quotient + 1

/-- The number `significand * 2 ^ exponent`, for an exponent not below the least one and a
significand of at most one bit more than the format keeps. Adding the significand, hidden bit
included, to the shifted exponent makes a carry raise the exponent by itself; what passes the
largest finite number becomes an infinity. -/
def encode (f : Format) (negative : Bool) (significand : Nat) (exponent : Int) : Binary f :=
  let bits := (exponent - f.minExponent).toNat * 2 ^ f.fractionBits + significand
  ofBits f ((if negative then f.signBit else 0) + min bits f.infinityBits)

/-- The largest `k` with `2 ^ k ≤ num / den`, for positive `num` and `den`. -/
def quotientLog2 (num den : Nat) : Int :=
  let guess : Int := (num.log2 : Int) - den.log2
  if num * 2 ^ (-guess).toNat < den * 2 ^ guess.toNat then guess - 1 else guess

/-- The number nearest to `num / den * 2 ^ exponent`, a tie going to the even significand. -/
def ofQuotient (f : Format) (negative : Bool) (num den : Nat) (exponent : Int) : Binary f :=
  if num = 0 then encode f negative 0 f.minExponent
  else
    let place := max f.minExponent (exponent + quotientLog2 num den - f.fractionBits)
    let shift := exponent - place
    encode f negative (roundDiv (num * 2 ^ shift.toNat) (den * 2 ^ (-shift).toNat)) place

/-- The number nearest to `significand * 2 ^ exponent`. -/
def ofScaled (f : Format) (negative : Bool) (significand : Nat) (exponent : Int) : Binary f :=
  ofQuotient f negative significand 1 exponent

/-- The number nearest to an integer; an integer too large for the format gives an infinity. -/
def ofInt (f : Format) (n : Int) : Binary f :=
  ofScaled f (n < 0) n.natAbs 0

/-- The infinity of a sign. -/
def infinity (f : Format) (negative : Bool) : Binary f :=
  ofBits f ((if negative then f.signBit else 0) + f.infinityBits)

/-- The number of another format nearest to this one. Into a wider format nothing is lost. -/
def convert (g : Format) (x : Binary f) : Binary g :=
  match x.magnitude with
  | .nan => nan g
  | .infinite => infinity g x.isNegative
  | .finite significand exponent => ofScaled g x.isNegative significand exponent

/-- The integer that the number is, if it is one. -/
def toInt? (x : Binary f) : Option Int :=
  match x.magnitude with
  | .finite significand exponent =>
    let scale := 2 ^ (-exponent).toNat
    if significand % scale = 0 then
      let magnitude : Int := (significand / scale * 2 ^ exponent.toNat : Nat)
      some (if x.isNegative then -magnitude else magnitude)
    else none
  | _ => none

/-- Equality of the numbers meant: a NaN equals nothing, and the two zeros are equal. -/
def equals (x y : Binary f) : Bool :=
  !x.isNaN && !y.isNaN && (x = y || (x.bits % f.signBit = 0 && y.bits % f.signBit = 0))

/-- The product of two finite numbers, rounded once; NaN when one of them is not finite. -/
def mulFinite (x y : Binary f) : Binary f :=
  match x.magnitude, y.magnitude with
  | .finite m p, .finite n q => ofScaled f (x.isNegative != y.isNegative) (m * n) (p + q)
  | _, _ => nan f

/-- The quotient of two finite numbers, rounded once; NaN when one of them is not finite or the
divisor is zero. -/
def divFinite (x y : Binary f) : Binary f :=
  match x.magnitude, y.magnitude with
  | .finite m p, .finite n q =>
    if n = 0 then nan f else ofQuotient f (x.isNegative != y.isNegative) m n (p - q)
  | _, _ => nan f

end Binary

end ConfigBinding.Numeric
