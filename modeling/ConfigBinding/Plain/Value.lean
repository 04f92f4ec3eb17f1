import ConfigBinding.Json.Reader
import ConfigBinding.Plain.Basic
import ConfigBinding.Time.Rfc3339

/-!
# Values as plain data

Nulls, truth values, 64-bit integers, strings and lists are themselves. Everything else is a record
with a tag: a float under `f` by the sixteen hexadecimal digits of its bits, or as `nan`; a
date-time under `d` by its RFC 3339 text; a big integer under `b` by its decimal text; and a map
under `m` by the pairs of its entries, with the pairs of its comments under `c` where it has any.
-/

namespace ConfigBinding

open Numeric

attribute [local instance (2000)] instPowNat

/-! ## Floats -/

/-- A digit of a hexadecimal number. -/
def hexDigit (n : Nat) : Char := Nat.digitChar (n % 16)

/-- The last digits of a number in hexadecimal, as many as asked for. -/
def hexDigits : Nat → Nat → List Char
  | 0, _ => []
  | width + 1, n => hexDigits width (n / 16) ++ [hexDigit n]

/-- A float by its bits. -/
def plainFloat (x : Binary64) : Plain :=
  .tagged "f" (.text (if x.isNaN then "nan" else String.ofList (hexDigits 16 x.bits)))

/-- The float with the given bits in hexadecimal. -/
def floatOfBits? (s : String) : Option Binary64 :=
  if s = "nan" then some (.nan _)
  else do
    let ds ← s.toList.mapM Json.hexDigit?
    return .ofBits _ (ds.foldl (fun n d => 16 * n + d) 0)

/-- The float that a record with the tag of floats holds. -/
def floatOfPlain? (p : Plain) : Option Binary64 := do floatOfBits? (← (← p.field? "f").text?)

/-! ## Date-times and big integers -/

/-- A date-time by its text. -/
def plainDate (t : Time.Instant) : Plain := .tagged "d" (.text t.toRfc3339)

/-- The date-time that a record with the tag of date-times holds; its text may have any offset. -/
def dateOfPlain? (p : Plain) : Option Time.Instant := do
  (Time.Instant.parseRfc3339 (← (← p.field? "d").text?)).toOption

/-- A big integer by its decimal text. -/
def plainBig (n : Int) : Plain := .tagged "b" (.text (toString n))

/-- The integer that a record with the tag of big integers holds. -/
def bigOfPlain? (p : Plain) : Option Int := do (← (← p.field? "b").text?).toInt?

/-! ## Values -/

/-- Comments as pairs. -/
def plainComments (comments : List (String × String)) : Plain :=
  .list (comments.map fun p => .pair p.1 (.text p.2))

/-- A map from the pairs of its entries and its comments. -/
def plainMap (entries : List Plain) (comments : List (String × String)) : Plain :=
  .record (("m", .list entries) ::
    if comments.isEmpty then [] else [("c", plainComments comments)])

mutual

/-- A value as plain data. -/
def Value.toPlain : Value → Plain
  | .null => .null
  | .bool b => .bool b
  | .number (.integer n) => .integer n.toInt
  | .number (.float x) => plainFloat x
  | .string s => .text s
  | .list items => .list (plainItems items)
  | .config ⟨entries, comments⟩ => plainMap (plainEntries entries) comments
  | .dateTime t => plainDate t
  | .bigInt n => plainBig n

/-- The items of a list as plain data. -/
def plainItems : List Value → List Plain
  | [] => []
  | v :: rest => v.toPlain :: plainItems rest

/-- The entries of a map as pairs. -/
def plainEntries : List (String × Value) → List Plain
  | [] => []
  | (k, v) :: rest => .pair k v.toPlain :: plainEntries rest

end

/-- A map as plain data. -/
def Tree.toPlain (t : Tree) : Plain := (Value.config t).toPlain

/-- Comments from pairs; a repeated key keeps its first position and its last text. -/
def commentsOfPlain? : Option Plain → Option (List (String × String))
  | none => some []
  | some (.list pairs) => do
    let comments ← pairs.mapM fun
      | .list [.text k, .text s] => some (k, s)
      | _ => none
    return Keyed.ofList comments
  | some _ => none

mutual

/-- The value that plain data stands for. Integers must have 64 bits. -/
def Value.ofPlain? : Plain → Option Value
  | .null => some .null
  | .bool b => some (.bool b)
  | .integer n =>
    if -2 ^ (63 : Nat) ≤ n ∧ n < 2 ^ (63 : Nat) then some (.number (.integer (Int64.ofInt n))) else none
  | .text s => some (.string s)
  | .list items => .list <$> itemsOfPlain? items
  | .record fields => valueOfFields? (Plain.findField? fields "c") (.record fields) fields

/-- The items of a list. -/
def itemsOfPlain? : List Plain → Option (List Value)
  | [] => some []
  | p :: rest => do
    let v ← Value.ofPlain? p
    let rest ← itemsOfPlain? rest
    return v :: rest

/-- The value of a record, given its comments and itself; the first tag among its fields
decides. -/
def valueOfFields? (comments : Option Plain) (whole : Plain) :
    List (String × Plain) → Option Value
  | [] => none
  | (k, content) :: rest =>
    if k = "m" then do
      let entries ← entriesOfPlain? content
      let comments ← commentsOfPlain? comments
      return .config ⟨Keyed.ofList entries, comments⟩
    else if k = "f" then (fun x => .number (.float x)) <$> floatOfPlain? whole
    else if k = "d" then .dateTime <$> dateOfPlain? whole
    else if k = "b" then .bigInt <$> bigOfPlain? whole
    else valueOfFields? comments whole rest

/-- The pairs of a list of pairs. -/
def entriesOfPlain? : Plain → Option (List (String × Value))
  | .list pairs => pairsOfPlain? pairs
  | _ => none

/-- Pairs of texts and values. -/
def pairsOfPlain? : List Plain → Option (List (String × Value))
  | [] => some []
  | p :: rest => do
    let pair ← pairOfPlain? p
    let rest ← pairsOfPlain? rest
    return pair :: rest

/-- A pair of a text and a value. -/
def pairOfPlain? : Plain → Option (String × Value)
  | .list [.text k, p] => do
    let v ← Value.ofPlain? p
    return (k, v)
  | _ => none

end

/-- The map that plain data stands for. -/
def Tree.ofPlain? (p : Plain) : Option Tree :=
  match Value.ofPlain? p with
  | some (.config t) => some t
  | _ => none

end ConfigBinding
