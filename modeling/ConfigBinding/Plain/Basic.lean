/-!
# Plain data

What every format for the interchange of data can carry: nothing, truth values, integers, texts,
lists and records. Configurations hold more than that, and the other modules of this folder say how
each of their things is written as plain data without losing anything: a float by its bits, a map
with its comments, a date-time and a big integer under a tag.
-/

namespace ConfigBinding

/-- Plain data. -/
inductive Plain where
  | null
  | bool (b : Bool)
  | integer (n : Int)
  | text (s : String)
  | list (items : List Plain)
  | record (fields : List (String × Plain))

namespace Plain

instance : Inhabited Plain := ⟨.null⟩

/-- The first field of a record with a name. -/
def findField? : List (String × Plain) → String → Option Plain
  | [], _ => none
  | (k, v) :: rest, name => if k = name then some v else findField? rest name

/-- A field of a record; what is no record has no fields. -/
def field? : Plain → String → Option Plain
  | .record fields, name => findField? fields name
  | _, _ => none

/-- The text, if it is one. -/
def text? : Plain → Option String
  | .text s => some s
  | _ => none

/-- The integer, if it is one. -/
def integer? : Plain → Option Int
  | .integer n => some n
  | _ => none

/-- A record with one field. -/
def tagged (tag : String) (content : Plain) : Plain := .record [(tag, content)]

/-- A pair of things of which the first one is a text. -/
def pair (name : String) (content : Plain) : Plain := .list [.text name, content]

mutual

/-- Equality, where the order of a record's fields does not count. -/
def equals : Plain → Plain → Bool
  | .null, .null => true
  | .bool a, .bool b => a = b
  | .integer m, .integer n => m = n
  | .text s, .text t => s = t
  | .list xs, .list ys => equalItems xs ys
  | .record fs, .record gs => fs.length = gs.length && fieldsFound fs gs
  | _, _ => false

/-- Equality position by position. -/
def equalItems : List Plain → List Plain → Bool
  | [], [] => true
  | x :: xs, y :: ys => x.equals y && equalItems xs ys
  | _, _ => false

/-- Whether every field of the first record is found equal in the second. -/
def fieldsFound : List (String × Plain) → List (String × Plain) → Bool
  | [], _ => true
  | (k, v) :: rest, other =>
    (match findField? other k with
      | some w => v.equals w
      | none => false)
    && fieldsFound rest other

end

end Plain

end ConfigBinding
