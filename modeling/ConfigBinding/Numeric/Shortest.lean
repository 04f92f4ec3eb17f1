import ConfigBinding.Numeric.Binary

/-!
# The shortest decimal that reads back

A finite number owns the reals that round to it: those between the midpoints to its two
neighbours, the midpoints included when its significand is even. Among the decimals in that
interval, `shortest` takes one with the fewest digits, and of two such decimals the nearer one; of
two at equal distance, the one that a `Tie` says.
A grid of decimals with a given last place meets the interval only if one of the number's two
neighbours on the grid lies in it, so only those two are tried, grid by grid.

All comparisons are between products of natural numbers.
-/

namespace ConfigBinding.Numeric

attribute [local instance (2000)] instPowNat

/-- The decimal `digits * 10 ^ exponent`. -/
structure Decimal where
  digits : Nat
  exponent : Int
  deriving DecidableEq, Repr

namespace Decimal

/-- The same decimal without zeros at the end of its digits. -/
def trim (d : Decimal) : Decimal :=
  go d.digits d.exponent d.digits
where
  /-- Drops at most `fuel` zeros; a number has fewer zeros at its end than its own value. -/
  go : Nat → Int → Nat → Decimal
    | digits, exponent, 0 => ⟨digits, exponent⟩
    | digits, exponent, fuel + 1 =>
      if digits ≠ 0 ∧ digits % 10 = 0 then go (digits / 10) (exponent + 1) fuel
      else ⟨digits, exponent⟩

end Decimal

/-- Which of two neighbours a number half way between them goes to. -/
inductive Tie where
  | up
  | toEven
  deriving DecidableEq, Repr

/-- A positive number with the reals that round to it, over one common denominator: the number is
`num / den`, and the interval reaches from `low / den` to `high / den`. -/
structure RoundingInterval where
  low : Nat
  num : Nat
  high : Nat
  den : Nat
  /-- Whether the two ends round to the number. -/
  closed : Bool
  deriving Repr

namespace RoundingInterval

/-- The interval of the number `significand * 2 ^ exponent` of a format. Below a power of two the
neighbour is half as far away, except at the bottom of the format's range. -/
def ofScaled (f : Format) (significand : Nat) (exponent : Int) : RoundingInterval :=
  let scale := 2 ^ exponent.toNat
  let lowGap := if significand = 2 ^ f.fractionBits ∧ f.minExponent < exponent then 1 else 2
  { low := (4 * significand - lowGap) * scale
    num := 4 * significand * scale
    high := (4 * significand + 2) * scale
    den := 4 * 2 ^ (-exponent).toNat
    closed := significand % 2 = 0 }

/-- Whether `digits * 10 ^ place` lies in the interval. -/
def contains (r : RoundingInterval) (digits : Nat) (place : Int) : Bool :=
  let value := digits * 10 ^ place.toNat * r.den
  let scale := 10 ^ (-place).toNat
  if r.closed then r.low * scale ≤ value && value ≤ r.high * scale
  else r.low * scale < value && value < r.high * scale

/-- The power of ten just above the number: the least `k` with `num / den < 10 ^ k`. -/
def decimalPoint (r : RoundingInterval) : Int :=
  if r.den ≤ r.num then (Nat.toDigits 10 (r.num / r.den)).length
  else -below (10 * r.num) r.den.log2 0
where
  /-- How many zeros follow the point: `num` has been multiplied by ten once more than `zeros`. -/
  below (num : Nat) : Nat → Nat → Int
    | 0, zeros => zeros
    | fuel + 1, zeros => if num < r.den then below (10 * num) fuel (zeros + 1) else zeros

/-- The neighbours of the number on the grid with last place `place` that lie in the interval; of
two, the nearer, and at equal distance the one that the tie goes to. -/
def onGrid? (r : RoundingInterval) (tie : Tie) (place : Int) : Option Decimal :=
  let num := r.num * 10 ^ (-place).toNat
  let den := r.den * 10 ^ place.toNat
  let floor := num / den
  let rest := num % den
  let up := if rest = 0 then floor else floor + 1
  let isDown := 2 * rest < den || (2 * rest = den && tie = .toEven && floor % 2 = 0)
  let nearer := if isDown then (floor, up) else (up, floor)
  if r.contains nearer.1 place then some ⟨nearer.1, place⟩
  else if r.contains nearer.2 place then some ⟨nearer.2, place⟩
  else none

/-- The first grid with a decimal in the interval, from `place` on, with `fuel` more digits to
try. -/
def search (r : RoundingInterval) (tie : Tie) (place : Int) : Nat → Decimal
  | 0 => (r.onGrid? tie place).getD ⟨0, place⟩
  | fuel + 1 =>
    match r.onGrid? tie place with
    | some d => d
    | none => r.search tie (place - 1) fuel

end RoundingInterval

/-- The shortest decimal that rounds to the positive number `significand * 2 ^ exponent`. Seventeen
digits suffice in double precision, and a format of `n` fraction bits needs fewer than `n`. -/
def shortest (f : Format) (tie : Tie) (significand : Nat) (exponent : Int) : Decimal :=
  let r := RoundingInterval.ofScaled f significand exponent
  (r.search tie (r.decimalPoint - 1) f.fractionBits).trim

end ConfigBinding.Numeric
