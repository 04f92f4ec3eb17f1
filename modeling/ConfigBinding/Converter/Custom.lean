import ConfigBinding.Converter.Basic
import ConfigBinding.Numeric.Integer

/-!
# Converters to register

A stock of converters beside the built-in ones. A registry has them only if they are added; they
are examples of the three things that a converter can do: replace a value, refuse it, and ask for
the conversion of further values.
-/

namespace ConfigBinding

namespace Serializer

/-- Strings get an exclamation mark. -/
def exclaim : Serializer where
  name := "exclaim"
  accepts v _ := v.isString
  convert _ v _ :=
    match v with
    | .string s => .ok (.string (s ++ "!"))
    | v => .ok v

/-- Date-times are stored as their seconds since 1970. -/
def epoch : Serializer where
  name := "epoch"
  accepts v _ :=
    match v with
    | .dateTime _ => true
    | _ => false
  convert _ v _ :=
    match v with
    | .dateTime t => .ok (.number (.integer (Int64.ofInt t.seconds)))
    | v => .ok v

/-- What is declared as an integer is stored as a list of one item. -/
def wrapInteger : Serializer where
  name := "wrap_int"
  accepts _ c := c.shape = .integer
  convert again v _ := do
    let item ← again v .any
    return .list [item]

/-- Whether a value is the string that the refusing converters are waiting for. -/
def isBoom : Value → Bool
  | .string s => s = "boom"
  | _ => false

/-- Refuses one string with the given error. -/
def refusing (name : String) (error : Value → Constraint → Error) : Serializer where
  name := name
  accepts v _ := isBoom v
  convert _ v c := .error (error v c)

/-- Refuses with an error that tells the value and its type. -/
def failing : Serializer :=
  refusing "fail" fun v c => .ofFault (.other ("refused " ++ v.display ++ " as " ++ c.typeName))

/-- Refuses with an error in words. -/
def failingInWords : Serializer := refusing "fail_custom" fun _ _ => .custom "refused"

/-- Refuses with an error that is final. -/
def failingFinally : Serializer := refusing "fail_missing" fun _ _ => .missingEntry "p" "m" "T"

/-- The serializers of this module. -/
def stock : List Serializer :=
  [exclaim, epoch, wrapInteger, failing, failingInWords, failingFinally]

end Serializer

namespace Deserializer

/-- Two words become truth values. -/
def words : Deserializer where
  name := "words"
  accepts v c :=
    c.shape = .bool &&
      match v with
      | some (.string s) => s = "yes" || s = "no"
      | _ => false
  convert _ v _ :=
    match v with
    | some (.string s) => .ok (.bool (s = "yes"))
    | v => .ok (v.getD .null)

/-- The parts of a text between commas; the empty text has one empty part. -/
def splitCommas : List Char → List (List Char)
  | [] => [[]]
  | c :: rest =>
    match splitCommas rest with
    | [] => [[c]]
    | part :: parts => if c = ',' then [] :: part :: parts else (c :: part) :: parts

/-- A part of a text with commas: an integer of 64 bits where it reads as one. -/
def partValue (part : List Char) : Value :=
  match Numeric.readInt64? part with
  | some n => .number (.integer n)
  | none => .string (String.ofList part)

/-- A text with commas becomes a list of its parts, each converted into the list's element. -/
def commaSeparated : Deserializer where
  name := "csv"
  accepts v c :=
    c.shape = .list &&
      match v with
      | some (.string _) => true
      | _ => false
  convert again v c :=
    match v with
    | some (.string s) =>
      .list <$> (splitCommas s.toList).mapM fun part => again (some (partValue part)) c.elementOrAny
    | v => .ok (v.getD .null)

/-- One word for an integer stays a string. -/
def wrong : Deserializer where
  name := "wrong"
  accepts v c :=
    c.shape = .integer &&
      match v with
      | some (.string s) => s = "wrong"
      | _ => false
  convert _ _ _ := .ok (.string "still text")

/-- No value for an integer becomes zero. -/
def zero : Deserializer where
  name := "zero"
  accepts v c := c.shape = .integer && v.isNone
  convert _ _ _ := .ok (.number (.integer 0))

/-- Refuses one string with the given error. -/
def refusing (name : String) (error : Constraint → Error) : Deserializer where
  name := name
  accepts v _ := (v.map Serializer.isBoom).getD false
  convert _ _ c := .error (error c)

/-- Refuses with an error that tells the type. -/
def failing : Deserializer :=
  refusing "fail" fun c => .ofFault (.other ("refused boom as " ++ c.typeName))

/-- Refuses with an error in words. -/
def failingInWords : Deserializer := refusing "fail_custom" fun _ => .custom "refused"

/-- Refuses with an error that is final. -/
def failingFinally : Deserializer := refusing "fail_missing" fun _ => .missingEntry "p" "m" "T"

/-- The deserializers of this module. -/
def stock : List Deserializer :=
  [words, commaSeparated, wrong, zero, failing, failingInWords, failingFinally]

end Deserializer

end ConfigBinding
