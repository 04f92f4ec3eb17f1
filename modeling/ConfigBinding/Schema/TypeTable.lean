import ConfigBinding.Schema.MemberType
import ConfigBinding.Schema.ObjectType

/-!
# Tables of object types

Object types that may have one another, and themselves, as types of members, each known by its name.
A table gives every type of members its codec (`TypeTable.codec`).

Data are finite, but converting them need not end: a default may put an object in the place of
nothing, and the new object may again hold nothing in that place. So a table says how many objects
inside one another are converted (`TypeTable.nesting`), and the conversion of a deeper one fails.
-/

namespace ConfigBinding

/-- Object types by their names. -/
structure TypeTable where
  types : List (ObjectType MemberType) := []
  /-- How many objects inside one another are converted. -/
  nesting : Nat := 1000

namespace TypeTable

/-- The object type of a name. -/
def find? (ts : TypeTable) (typeName : String) : Option (ObjectType MemberType) :=
  ts.types.find? (·.name = typeName)

/-- Adds an object type behind the others. -/
def add (ts : TypeTable) (t : ObjectType MemberType) : TypeTable :=
  { ts with types := ts.types ++ [t] }

/-- The codec of the object type of a name, which converts as many objects inside one another as
the first argument says. -/
def objectCodec (ts : TypeTable) : Nat → String → Codec
  | 0, typeName => .unconvertible typeName "objects are nested too deeply"
  | nesting + 1, typeName =>
    match ts.find? typeName with
    | some t => t.codec (MemberType.codecWith (ts.objectCodec nesting))
    | none => .unconvertible typeName "no such object type"

/-- The codec of a type of members. -/
def codec (ts : TypeTable) (t : MemberType) : Codec := t.codecWith (ts.objectCodec ts.nesting)

/-- An object type of the table, ready to be run. -/
def compile (ts : TypeTable) (t : ObjectType MemberType) : ObjectType Codec := t.mapType ts.codec

/-- What the table finds bears the name that was looked for. -/
theorem name_of_find? {ts : TypeTable} {typeName : String} {t : ObjectType MemberType}
    (h : ts.find? typeName = some t) : t.name = typeName := by
  simpa using List.find?_some h

/-- The codecs of a table bear the names of its types. -/
theorem namesKept_objectCodec (ts : TypeTable) (nesting : Nat) :
    MemberType.NamesKept (ts.objectCodec nesting) := by
  intro typeName
  cases nesting with
  | zero => exact ⟨rfl, rfl⟩
  | succ nesting =>
    simp only [objectCodec]
    split
    · rename_i t h
      simp [ObjectType.codec, name_of_find? h]
    · exact ⟨rfl, rfl⟩

@[simp] theorem codec_name (ts : TypeTable) (t : MemberType) : (ts.codec t).name = t.name :=
  MemberType.codecWith_name (ts.namesKept_objectCodec ts.nesting) t

@[simp] theorem codec_constraint (ts : TypeTable) (t : MemberType) :
    (ts.codec t).constraint = t.constraint :=
  MemberType.codecWith_constraint (ts.namesKept_objectCodec ts.nesting) t

end TypeTable

end ConfigBinding
