import ConfigBinding.Value.Text

/-!
# What a tree holds at a path

An entry tells "nothing there" apart from "the null marker is there". `Entry.of` makes one from
what was looked up, and never puts the null marker into `present`.
-/

namespace ConfigBinding

/-- What a tree holds at a path. -/
inductive Entry where
  /-- Nothing is there. -/
  | absent
  /-- The null marker is there. -/
  | null
  /-- A value other than the null marker is there. -/
  | present (value : Value)

namespace Entry

/-- The entry of what was looked up. -/
def of : Option Value → Entry
  | none => .absent
  | some .null => .null
  | some v => .present v

/-- Whether nothing is there. -/
def isAbsent : Entry → Bool
  | .absent => true
  | _ => false

/-- Whether the null marker is there. -/
def isNull : Entry → Bool
  | .null => true
  | _ => false

/-- Whether an empty string, list or map is there. -/
def isEmpty : Entry → Bool
  | .present v => v.isEmpty? = some true
  | _ => false

/-- The value there, unless it is the null marker. -/
def value? : Entry → Option Value
  | .present v => some v
  | _ => none

/-- The text of an entry in messages. -/
def display : Entry → String
  | .absent => "<absent>"
  | .null => "null"
  | .present v => v.display

end Entry

end ConfigBinding
