import ConfigBinding.Text.GlyphTable

/-!
# Quoted text

How a string or a character is shown in the inspection text of a value: between quotes, with the
quote, the backslash and everything without a glyph of its own written as an escape. A reader of
the inspection text can thus tell every two strings apart.
-/

namespace ConfigBinding.Text.Quoted

/-- Whether a character is shown as it is: it has a glyph, and does not join the one before it. -/
def isShown (c : Char) : Bool :=
  if c.toNat < 128 then 32 ≤ c.toNat && c.toNat < 127
  else !Run.anyContains joiningRuns c.toNat && !Run.anyContains glyphlessRuns c.toNat

/-- The escape that gives a character by its code point. -/
def codePointEscape (c : Char) : List Char :=
  ['\\', 'u', '\x7b'] ++ Nat.toDigits 16 c.toNat ++ ['\x7d']

/-- The text of one character between quotes of the kind `quote`. -/
def escape (quote c : Char) : List Char :=
  if c = quote ∨ c = '\\' then ['\\', c]
  else if c = '\x00' then ['\\', '0']
  else if c = '\t' then ['\\', 't']
  else if c = '\r' then ['\\', 'r']
  else if c = '\n' then ['\\', 'n']
  else if isShown c then [c]
  else codePointEscape c

/-- A string between double quotes. -/
def string (s : String) : String :=
  String.ofList ('"' :: s.toList.flatMap (escape '"') ++ ['"'])

/-- A character between single quotes. -/
def char (c : Char) : String :=
  String.ofList ('\'' :: escape '\'' c ++ ['\''])

end ConfigBinding.Text.Quoted
