import ConfigBinding.Text.Case

/-!
# Naming strategies

A naming strategy turns the name of a member into the key under which the member is stored. It is
asked only for members without a key of their own, and it is total: every name has a key, and the
empty name keeps the empty key.

The strategies work on lists of characters; `Strategy.transform` wraps them for strings.
-/

namespace ConfigBinding.Naming

open ConfigBinding.Text.Case

/-- Writes `separator` before each run of capitals that does not start the name, and writes the
capitals small. `joined` says that no separator is due: at the start of the name, and directly
after a capital, so that a run of capitals stays one word. -/
def separateFrom (separator : Char) (joined : Bool) : List Char → List Char
  | [] => []
  | c :: rest =>
    if isUppercase c then
      (if joined then [] else [separator]) ++ (lowercase c ++ separateFrom separator true rest)
    else
      c :: separateFrom separator false rest

/-- A name with its words set apart by `separator`: `userName` becomes `user_name`, and
`HTTPMethod` becomes `httpmethod`. -/
def separateWords (separator : Char) (name : List Char) : List Char :=
  separateFrom separator true name

/-- Where the next letter or digit stands in a camel-case name. -/
inductive WordPosition where
  /-- Nothing has been written yet. -/
  | opening
  /-- A separator has been read since the last letter or digit. -/
  | start
  /-- The last character read was a letter or digit. -/
  | inside
  deriving DecidableEq, Repr

/-- Whether the first of the characters is a small letter. -/
def startsLowercase : List Char → Bool
  | [] => false
  | c :: _ => isLowercase c

/-- Camel case from a position on. Characters that are neither letters nor digits separate words
and are dropped; the first letter written is small, each later word starts with a capital, and a
capital inside a word is kept only when a small letter follows it. -/
def camelFrom : WordPosition → List Char → List Char
  | _, [] => []
  | position, c :: rest =>
    if !isAlphanumeric c then
      camelFrom (if position = .opening then .opening else .start) rest
    else
      match position with
      | .opening => lowercase c ++ camelFrom .inside rest
      | .start => uppercase c ++ camelFrom .inside rest
      | .inside =>
        (if isUppercase c && !startsLowercase rest then lowercase c else [c])
          ++ camelFrom .inside rest

/-- `user_name` becomes `userName`, and `HTTPMethod` becomes `httpMethod`. -/
def camel (name : List Char) : List Char :=
  camelFrom .opening name

/-- `userName` becomes `UserName`: only the first character changes. -/
def pascal : List Char → List Char
  | [] => []
  | c :: rest => uppercase c ++ rest

/-- How the key of a member is made from its name. -/
inductive Strategy where
  /-- The name itself. -/
  | identity
  /-- Words set apart by `_`. -/
  | snake
  /-- Words set apart by `-`. -/
  | kebab
  /-- Words joined, each but the first with a capital. -/
  | camel
  /-- The name with its first character in uppercase. -/
  | pascal
  /-- Any function of the caller's. -/
  | custom (rename : String → String)

/-- The key that a strategy makes from a name. -/
def Strategy.transform : Strategy → String → String
  | .identity, name => name
  | .snake, name => String.ofList (separateWords '_' name.toList)
  | .kebab, name => String.ofList (separateWords '-' name.toList)
  | .camel, name => String.ofList (Naming.camel name.toList)
  | .pascal, name => String.ofList (Naming.pascal name.toList)
  | .custom rename, name => rename name

/-- The strategy on an optional name; an absent name stays absent. -/
def Strategy.transform? (s : Strategy) (name : Option String) : Option String :=
  name.map s.transform

end ConfigBinding.Naming
