import ConfigBinding.Numeric.Shortest

/-!
# Laying out a number

Which digits a number has is `Numeric.shortest`; how they are written is a record of decisions.
The four records at the end are the only places where a format of this library says how it
writes numbers.
-/

namespace ConfigBinding.Numeric

/-- How the digits of a number are written. -/
structure Layout where
  /-- Which of two equally near shortest decimals is written. -/
  tie : Tie
  /-- The powers of ten of the first digit that are written without an exponent; `none` means
  all. -/
  positional : Option (Int × Int)
  /-- Whether a whole number shows its fraction `.0`. -/
  showsFraction : Bool
  /-- What stands before an exponent that is not negative, after the `e`. -/
  exponentSign : String
  nan : String
  infinity : String

namespace Layout

/-- The digits of a decimal with a point `point` places from the left, zeros filled in. -/
def fixed (showsFraction : Bool) (digits : List Char) (point : Int) : List Char :=
  if point ≤ 0 then
    ['0', '.'] ++ List.replicate (-point).toNat '0' ++ digits
  else
    let whole := digits.take point.toNat
    let fraction := digits.drop point.toNat
    let whole := whole ++ List.replicate (point.toNat - digits.length) '0'
    if fraction.isEmpty then
      if showsFraction then whole ++ ['.', '0'] else whole
    else
      whole ++ ['.'] ++ fraction

/-- The digits of a decimal with one digit before the point, and an exponent. -/
def scientific (sign : String) (digits : List Char) (exponent : Int) : List Char :=
  let mantissa :=
    match digits with
    | [] => ['0']
    | [d] => [d]
    | d :: rest => d :: '.' :: rest
  let sign := if exponent < 0 then "" else sign
  mantissa ++ ['e'] ++ sign.toList ++ (toString exponent).toList

/-- The text of a number without its sign. -/
def magnitude (l : Layout) (f : Format) : Magnitude → List Char
  | .nan => l.nan.toList
  | .infinite => l.infinity.toList
  | .finite significand exponent =>
    if significand = 0 then fixed l.showsFraction ['0'] 1
    else
      let d := shortest f l.tie significand exponent
      let digits := Nat.toDigits 10 d.digits
      let first := d.exponent + digits.length - 1
      let isPositional :=
        match l.positional with
        | none => true
        | some (low, high) => decide (low ≤ first ∧ first ≤ high)
      if isPositional then fixed l.showsFraction digits (first + 1)
      else scientific l.exponentSign digits first

/-- The text of a number. A NaN has no sign. -/
def write {f : Format} (l : Layout) (x : Binary f) : String :=
  let text := String.ofList (l.magnitude f x.magnitude)
  if x.isNegative then "-" ++ text else text

/-- Numbers in messages: never an exponent, and a whole number without a fraction. -/
def plain : Layout :=
  { tie := .up, positional := none, showsFraction := false, exponentSign := "", nan := "NaN"
    infinity := "inf" }

/-- Numbers in messages that have to look like numbers with a fraction: never an exponent. -/
def pointed : Layout :=
  { tie := .up, positional := none, showsFraction := true, exponentSign := "", nan := "NaN"
    infinity := "inf" }

/-- Numbers in the inspection text: an exponent from `10 ^ 16` on and below `10 ^ -4`. -/
def inspected : Layout :=
  { tie := .up, positional := some (-4, 15), showsFraction := true, exponentSign := "", nan := "NaN"
    infinity := "inf" }

/-- Numbers in JSON text: an exponent, with its sign, from `10 ^ 16` on and below `10 ^ -5`, and
`null` for what JSON cannot write. -/
def json : Layout :=
  { tie := .toEven, positional := some (-5, 15), showsFraction := true, exponentSign := "+"
    nan := "null", infinity := "null" }

end Layout

end ConfigBinding.Numeric
