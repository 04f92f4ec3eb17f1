import ConfigBinding.Time.Instant

/-!
# Reading RFC 3339 text

`Instant.parseRfc3339` reads date, time of day and offset, all of them required. The date and the
time of day stand in the first nineteen bytes, which are looked at only when they are all there;
of two faults the one further to the left is reported, and a date or time of day that does not
exist is reported when its last field has been read. An offset of a day or more is the last fault
to be looked for, after what follows it.
-/

namespace ConfigBinding.Time

attribute [local instance (2000)] instPowNat

/-- Why a text is not a date-time. -/
inductive ParseError where
  /-- The text ends before the date-time does. -/
  | tooShort
  /-- A character stands where it cannot stand. -/
  | invalid
  /-- A field has a value that does not exist. -/
  | outOfRange
  /-- Something follows the date-time. -/
  | tooLong
  deriving DecidableEq, Repr

/-- The text of the fault. -/
def ParseError.message : ParseError → String
  | .tooShort => "premature end of input"
  | .invalid => "input contains invalid characters"
  | .outOfRange => "input is out of range"
  | .tooLong => "trailing input"

namespace Rfc3339

/-- A step that reads from the front of the text. -/
abbrev Reader (α : Type) := List Char → Except ParseError (α × List Char)

/-- The value of an ASCII digit. -/
def digitValue? (c : Char) : Option Nat :=
  if c.isDigit then some (c.toNat - '0'.toNat) else none

/-- Reads exactly `n` digits onto the number `read`. -/
def digits (read : Nat) : Nat → Reader Nat
  | 0, cs => .ok (read, cs)
  | _ + 1, [] => .error .tooShort
  | n + 1, c :: cs =>
    match digitValue? c with
    | some d => digits (10 * read + d) n cs
    | none => .error .invalid

/-- Reads one of the given characters. -/
def oneOf (allowed : List Char) : Reader Unit
  | [] => .error .tooShort
  | c :: cs => if c ∈ allowed then .ok ((), cs) else .error .invalid

/-- The digits at the front of the text, at most `n` of them. -/
def leadingDigits : Nat → List Char → List Nat
  | 0, _ | _, [] => []
  | n + 1, c :: cs =>
    match digitValue? c with
    | some d => d :: leadingDigits n cs
    | none => []

/-- Reads the digits after the point as nanoseconds; digits past the ninth are dropped. -/
def nanoseconds : Reader Nat
  | [] => .error .tooShort
  | cs =>
    match leadingDigits 9 cs with
    | [] => .error .invalid
    | ds =>
      let value := ds.foldl (fun n d => 10 * n + d) 0
      .ok (value * 10 ^ (9 - ds.length), cs.dropWhile Char.isDigit)

/-- Reads the fraction of a second, if there is one. -/
def fraction : Reader Nat
  | '.' :: cs => nanoseconds cs
  | cs => .ok (0, cs)

/-- Reads the sign of an offset; a minus sign is a hyphen or the character U+2212. -/
def offsetSign : Reader Int
  | [] => .error .tooShort
  | c :: cs =>
    if c = '+' then .ok (1, cs)
    else if c = '-' ∨ c = '\u2212' then .ok (-1, cs)
    else .error .invalid

/-- The number of bytes of a text. -/
def byteLength (cs : List Char) : Nat := cs.foldl (fun n c => n + c.utf8Size) 0

/-- Reads two digits of an offset, of which the first is at most `most`. -/
def offsetField (most : Nat) : Reader Nat
  | a :: b :: cs =>
    match digitValue? a, digitValue? b with
    | some m, some n => if m ≤ most then .ok (10 * m + n, cs) else .error .outOfRange
    | _, _ => .error .invalid
  | cs => if byteLength cs < 2 then .error .tooShort else .error .invalid

/-- Reads an offset in seconds; a letter `Z` stands for zero. -/
def offset : Reader Int
  | 'Z' :: cs | 'z' :: cs => .ok (0, cs)
  | cs => do
    let (sign, cs) ← offsetSign cs
    let (hours, cs) ← offsetField 9 cs
    let ((), cs) ← oneOf [':'] cs
    let (minutes, cs) ← offsetField 5 cs
    return (sign * (hours * 3600 + minutes * 60 : Nat), cs)

/-- Reads a date. -/
def date : Reader Date := fun cs => do
  let (year, cs) ← digits 0 4 cs
  let ((), cs) ← oneOf ['-'] cs
  let (month, cs) ← digits 0 2 cs
  let ((), cs) ← oneOf ['-'] cs
  let (day, cs) ← digits 0 2 cs
  match Date.ofCivil? year month day with
  | some d => return (d, cs)
  | none => throw .outOfRange

/-- Reads a time of day as seconds and nanoseconds; second 60 is the leap second after 59. -/
def timeOfDay : Reader (Nat × Nat) := fun cs => do
  let (hour, cs) ← digits 0 2 cs
  let ((), cs) ← oneOf [':'] cs
  let (minute, cs) ← digits 0 2 cs
  let ((), cs) ← oneOf [':'] cs
  let (second, cs) ← digits 0 2 cs
  let (nanos, cs) ← fraction cs
  if 23 < hour ∨ 59 < minute ∨ 60 < second then throw .outOfRange
  let (second, nanos) := if second = 60 then (59, nanos + nanosPerSecond) else (second, nanos)
  return ((hour * 3600 + minute * 60 + second, nanos), cs)

end Rfc3339

/-- The instant that an RFC 3339 text names. -/
def Instant.parseRfc3339 (text : String) : Except ParseError Instant := do
  let cs := text.toList
  if Rfc3339.byteLength cs < 19 then throw .tooShort
  let (day, cs) ← Rfc3339.date cs
  let ((), cs) ← Rfc3339.oneOf ['T', 't', ' '] cs
  let ((ofDay, nanos), cs) ← Rfc3339.timeOfDay cs
  let (offset, cs) ← Rfc3339.offset cs
  if !cs.isEmpty then throw .tooLong
  if 86400 ≤ offset.natAbs then throw .outOfRange
  if h : nanos < 2 * nanosPerSecond then
    return ⟨day.toDays * 86400 + ofDay - offset, nanos, h⟩
  else throw .outOfRange

end ConfigBinding.Time
