import ConfigBinding.Value.Basic

/-!
# Numbers of JSON text

A number without fraction and exponent that fits 64 bits, with or without sign, is that integer;
every other number is a float. For a float the reader keeps leading digits that fit 64 bits and the
power of ten that they stand for, and then multiplies or divides once by that power: two roundings,
so the float may differ from the nearest one in its last place. Powers beyond the largest one are
divided out in steps.

Digits are left out from the first one that does not fit, before the point and again after it: the
digits after the point are tried anew, behind the significand that the whole part has left.
-/

namespace ConfigBinding.Json

open Numeric

attribute [local instance (2000)] instPowNat

/-- Digits read so far: the significand, and the power of ten of its last digit. -/
structure Scanned where
  significand : Nat
  exponent : Int

/-- The largest power of ten that a float holds. -/
def largestPower : Nat := 308

/-- The value of a digit. -/
def digit? (c : Char) : Option Nat :=
  if c.isDigit then some (c.toNat - '0'.toNat) else none

/-- Whether another digit keeps the significand within 64 bits. -/
def fits (significand digit : Nat) : Bool := 10 * significand + digit < 2 ^ (64 : Nat)

/-- Reads the digits before the point. When `full`, the significand takes no more digits, and
every further digit counts as a power of ten. -/
def scanWhole (s : Scanned) (full : Bool) : List Char → Scanned × Bool × List Char
  | [] => (s, full, [])
  | c :: rest =>
    match digit? c with
    | none => (s, full, c :: rest)
    | some d =>
      if full || !fits s.significand d then scanWhole ⟨s.significand, s.exponent + 1⟩ true rest
      else scanWhole ⟨10 * s.significand + d, s.exponent⟩ false rest

/-- Reads the digits after the point. When `full`, further digits are dropped. -/
def scanFraction (s : Scanned) (full : Bool) : List Char → Scanned × List Char
  | [] => (s, [])
  | c :: rest =>
    match digit? c with
    | none => (s, c :: rest)
    | some d =>
      if full || !fits s.significand d then scanFraction s true rest
      else scanFraction ⟨10 * s.significand + d, s.exponent - 1⟩ false rest

/-- The power of ten of a float, as the nearest float. -/
def powerOfTen (n : Nat) : Binary64 := Binary.ofQuotient .double false (10 ^ n) 1 0

/-- Divides by the powers of ten that a negative exponent asks for, the largest power at a time. -/
def divideOut (x : Binary64) (exponent : Nat) : Nat → Binary64
  | 0 => x
  | fuel + 1 =>
    if exponent ≤ largestPower then x.divFinite (powerOfTen exponent)
    else divideOut (x.divFinite (powerOfTen largestPower)) (exponent - largestPower) fuel

/-- The float of a significand and a power of ten; `none` when it is too large. -/
def floatOf? (s : Scanned) : Option Binary64 :=
  let x := Binary.ofInt .double s.significand
  if s.exponent < 0 then
    -- after two steps nothing is left of a 64-bit significand
    some (divideOut x (min s.exponent.natAbs 1000) 4)
  else if s.significand = 0 then some x
  else if s.exponent.toNat ≤ largestPower then
    let product := x.mulFinite (powerOfTen s.exponent.toNat)
    if product.isFinite then some product else none
  else none

/-- Reads the exponent after the letter; `none` when it has no digit. -/
def readExponent? (cs : List Char) : Option (Int × List Char) :=
  let (negative, cs) :=
    match cs with
    | '+' :: rest => (false, rest)
    | '-' :: rest => (true, rest)
    | rest => (false, rest)
  match cs with
  | c :: _ =>
    if c.isDigit then
      let digits := cs.takeWhile Char.isDigit
      let n : Int := (digits.foldl (fun n d => 10 * n + (d.toNat - '0'.toNat)) 0 : Nat)
      some (if negative then -n else n, cs.dropWhile Char.isDigit)
    else none
  | [] => none

/-- A float with its sign. -/
def signed (negative : Bool) (x : Binary64) : Value :=
  .number (.float (if negative then .ofBits .double (x.bits + Format.double.signBit) else x))

/-- The value of a number without fraction and exponent. Minus zero is a float. -/
def wholeNumber (negative : Bool) (n : Nat) : Value :=
  if !negative then .ofInt n
  else if n = 0 ∨ 2 ^ (63 : Nat) < n then signed true (.ofInt .double n)
  else .ofInt (-n)

/-- Reads an unsigned number, whose sign has been read already. -/
def readUnsigned? (negative : Bool) (cs : List Char) : Option (Value × List Char) := do
  let (whole, full, cs) ←
    match cs with
    | '0' :: rest =>
      match rest with
      | c :: _ => if c.isDigit then none else some ((⟨0, 0⟩ : Scanned), false, rest)
      | [] => some (⟨0, 0⟩, false, rest)
    | c :: _ => if c.isDigit then some (scanWhole ⟨0, 0⟩ false cs) else none
    | [] => none
  let (scanned, isWhole, cs) ←
    match cs with
    | '.' :: c :: rest =>
      if c.isDigit then
        let (s, rest) := scanFraction whole false (c :: rest)
        some (s, false, rest)
      else none
    | '.' :: [] => none
    | cs => some (whole, !full, cs)
  match cs with
  | 'e' :: rest | 'E' :: rest => do
    let (e, rest) ← readExponent? rest
    let x ← floatOf? ⟨scanned.significand, scanned.exponent + e⟩
    return (signed negative x, rest)
  | cs =>
    if isWhole then return (wholeNumber negative scanned.significand, cs)
    else do
      let x ← floatOf? scanned
      return (signed negative x, cs)

/-- Reads a number. -/
def readNumber? : List Char → Option (Value × List Char)
  | '-' :: cs => readUnsigned? true cs
  | cs => readUnsigned? false cs

end ConfigBinding.Json
