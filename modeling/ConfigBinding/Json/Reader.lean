import ConfigBinding.Json.Number

/-!
# Values from JSON text

A JSON text read as a configuration value: objects become maps without comments, keys in their
order, a repeated key keeping its first position and its last value. An unsigned 64-bit integer
beyond the signed ones becomes a big integer.
-/

namespace ConfigBinding.Json

/-- Drops blanks. -/
def skipBlanks (cs : List Char) : List Char :=
  cs.dropWhile fun c => c = ' ' || c = '\n' || c = '\t' || c = '\r'

/-- The value of a hexadecimal digit. -/
def hexDigit? (c : Char) : Option Nat :=
  if c.isDigit then some (c.toNat - '0'.toNat)
  else if 'a' ≤ c ∧ c ≤ 'f' then some (c.toNat - 'a'.toNat + 10)
  else if 'A' ≤ c ∧ c ≤ 'F' then some (c.toNat - 'A'.toNat + 10)
  else none

/-- Reads the four digits of an escape. -/
def readUnit? : List Char → Option (Nat × List Char)
  | a :: b :: c :: d :: rest => do
    return (4096 * (← hexDigit? a) + 256 * (← hexDigit? b) + 16 * (← hexDigit? c)
      + (← hexDigit? d), rest)
  | _ => none

/-- Reads the character of an escape by code; two surrogates make one character. -/
def readCode? (cs : List Char) : Option (Char × List Char) := do
  let (high, rest) ← readUnit? cs
  if high < 0xD800 ∨ 0xE000 ≤ high then return (Char.ofNat high, rest)
  if 0xDC00 ≤ high then none
  match rest with
  | '\\' :: 'u' :: rest =>
    let (low, rest) ← readUnit? rest
    if 0xDC00 ≤ low ∧ low < 0xE000 then
      return (Char.ofNat (0x10000 + (high - 0xD800) * 1024 + (low - 0xDC00)), rest)
    else none
  | _ => none

/-- The character of a one-letter escape. -/
def letterEscape? : Char → Option Char
  | '"' => some '"'
  | '\\' => some '\\'
  | '/' => some '/'
  | 'b' => some '\x08'
  | 'f' => some '\x0c'
  | 'n' => some '\n'
  | 'r' => some '\r'
  | 't' => some '\t'
  | _ => none

/-- Reads a string up to its closing quote; `read` holds the characters so far, last one first. -/
def readString? (read : List Char) : Nat → List Char → Option (String × List Char)
  | 0, _ => none
  | fuel + 1, cs =>
    match cs with
    | '"' :: rest => some (String.ofList read.reverse, rest)
    | '\\' :: 'u' :: rest => do
      let (c, rest) ← readCode? rest
      readString? (c :: read) fuel rest
    | '\\' :: e :: rest => do
      let c ← letterEscape? e
      readString? (c :: read) fuel rest
    | c :: rest => if c.toNat < 32 then none else readString? (c :: read) fuel rest
    | [] => none

/-- Reads a fixed word. -/
def readWord? (word : String) (v : Value) (cs : List Char) : Option (Value × List Char) :=
  let letters := word.toList
  if letters.isPrefixOf cs then some (v, cs.drop letters.length) else none

mutual

/-- Reads a value, blanks before it included. Every step takes a character of the text, so its
length is fuel enough. -/
def readValue? : Nat → List Char → Option (Value × List Char)
  | 0, _ => none
  | fuel + 1, cs =>
    match skipBlanks cs with
    | 'n' :: rest => readWord? "null" .null ('n' :: rest)
    | 't' :: rest => readWord? "true" (.bool true) ('t' :: rest)
    | 'f' :: rest => readWord? "false" (.bool false) ('f' :: rest)
    | '"' :: rest => do
      let (s, rest) ← readString? [] (fuel + 1) rest
      return (.string s, rest)
    | '[' :: rest =>
      match skipBlanks rest with
      | ']' :: rest => some (.list [], rest)
      | rest => readItems? [] fuel rest
    | '\x7b' :: rest =>
      match skipBlanks rest with
      | '\x7d' :: rest => some (.config Tree.empty, rest)
      | rest => readEntries? [] fuel rest
    | rest => readNumber? rest

/-- Reads the items of a list up to its closing bracket. -/
def readItems? (read : List Value) : Nat → List Char → Option (Value × List Char)
  | 0, _ => none
  | fuel + 1, cs => do
    let (v, rest) ← readValue? fuel cs
    match skipBlanks rest with
    | ',' :: rest => readItems? (v :: read) fuel rest
    | ']' :: rest => return (.list (v :: read).reverse, rest)
    | _ => none

/-- Reads the entries of an object up to its closing brace. -/
def readEntries? (read : List (String × Value)) : Nat → List Char → Option (Value × List Char)
  | 0, _ => none
  | fuel + 1, cs =>
    match skipBlanks cs with
    | '"' :: rest => do
      let (k, rest) ← readString? [] (fuel + 1) rest
      match skipBlanks rest with
      | ':' :: rest =>
        let (v, rest) ← readValue? fuel rest
        let read := Keyed.insert read k v
        match skipBlanks rest with
        | ',' :: rest => readEntries? read fuel rest
        | '\x7d' :: rest => return (.config ⟨read, []⟩, rest)
        | _ => none
      | _ => none
    | _ => none

end

/-- The value of a JSON text; `none` when the text is no JSON. -/
def read? (text : String) : Option Value := do
  let cs := text.toList
  let (v, rest) ← readValue? (cs.length + 1) cs
  if (skipBlanks rest).isEmpty then some v else none

end ConfigBinding.Json
