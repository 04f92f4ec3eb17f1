import ConfigBinding.Numeric.Layout
import ConfigBinding.Value.Basic

/-!
# Values as JSON text

Compact JSON, keys in the order of the map. A date-time is its RFC 3339 text, a big integer its
decimal text, and comments are left out; what reads the text back gets strings for the first two.
-/

namespace ConfigBinding.Json

open Numeric

/-- The escape of a control character by its code. -/
def controlEscape (c : Char) : List Char :=
  let digits := Nat.toDigits 16 c.toNat
  ['\\', 'u'] ++ List.replicate (4 - digits.length) '0' ++ digits

/-- The text of one character of a JSON string. -/
def escape (c : Char) : List Char :=
  if c = '"' ∨ c = '\\' then ['\\', c]
  else if c = '\x08' then ['\\', 'b']
  else if c = '\x0c' then ['\\', 'f']
  else if c = '\n' then ['\\', 'n']
  else if c = '\r' then ['\\', 'r']
  else if c = '\t' then ['\\', 't']
  else if c.toNat < 32 then controlEscape c
  else [c]

/-- A JSON string. -/
def quote (s : String) : String :=
  String.ofList ('"' :: s.toList.flatMap escape ++ ['"'])

/-- A JSON number; what JSON cannot write is `null`. -/
def writeFloat (x : Binary64) : String :=
  if x.isFinite then Layout.json.write x else "null"

mutual

/-- The JSON text of a value. -/
def write : Value → String
  | .null => "null"
  | .bool b => toString b
  | .number (.integer n) => toString n.toInt
  | .number (.float x) => writeFloat x
  | .string s => quote s
  | .list items => "[" ++ ",".intercalate (writeItems items) ++ "]"
  | .config ⟨entries, _⟩ => "\x7b" ++ ",".intercalate (writeEntries entries) ++ "\x7d"
  | .dateTime t => quote t.toRfc3339
  | .bigInt n => quote (toString n)

/-- The JSON texts of the items of a list. -/
def writeItems : List Value → List String
  | [] => []
  | v :: rest => write v :: writeItems rest

/-- The JSON texts of the entries of a map. -/
def writeEntries : List (String × Value) → List String
  | [] => []
  | (k, v) :: rest => (quote k ++ ":" ++ write v) :: writeEntries rest

end

end ConfigBinding.Json
