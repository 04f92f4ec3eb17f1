import ConfigBinding.Codec.Container

/-!
# Types of members

The types that a member can be declared with, as data: plain types, optionals, lists and maps of
them, described types, and object types. An object type is given by its name alone, since its
members may have types in which the same name occurs again.

`MemberType.codecWith` gives each type its codec, when the codecs that go with the names of object
types are known. What a type is called and which constraint it sets does not depend on those
(`MemberType.codecWith_name`, `MemberType.codecWith_constraint`).
-/

namespace ConfigBinding

open Numeric

/-- A type of members. -/
inductive MemberType where
  | bool
  | integer (type : IntType)
  | single
  | double
  | char
  | string
  | dateTime
  | bigInt
  | value
  | tree
  | option (content : MemberType)
  | list (item : MemberType)
  | map (kind : MapKind) (value : MemberType)
  | described (type : Bridge.DataType)
  /-- The object type of a name. -/
  | object (typeName : String)

/-- The codec of an object type whose objects cannot be converted. -/
def Codec.unconvertible (typeName reason : String) : Codec where
  name := typeName
  constraint := .plain .object typeName
  toNative _ _ := .error (.ofFault (.other reason))
  fromNative _ _ := .error (.ofFault (.other reason))

namespace MemberType

/-- The codec of a type, given those of the object types by their names. -/
def codecWith (objects : String → Codec) : MemberType → Codec
  | .bool => .bool
  | .integer type => .integer type
  | .single => .single
  | .double => .double
  | .char => .char
  | .string => .string
  | .dateTime => .dateTime
  | .bigInt => .bigInt
  | .value => .value
  | .tree => .tree
  | .option content => .option (content.codecWith objects)
  | .list item => .list (item.codecWith objects)
  | .map kind element => .map kind (element.codecWith objects)
  | .described type => .described type
  | .object typeName => objects typeName

/-- Codecs that say only what object types are called. -/
def outline (typeName : String) : Codec := .unconvertible typeName "no object type"

/-- The name that identifies the type where rules for its members are looked up. Object types and
described types bring their names with them, and these are to be different for different types. -/
def name (t : MemberType) : String := (t.codecWith outline).name

/-- What converters are told about a type. -/
def constraint (t : MemberType) : Constraint := (t.codecWith outline).constraint

/-- Codecs of object types that bear the names of the types. -/
def NamesKept (objects : String → Codec) : Prop :=
  ∀ typeName, (objects typeName).name = typeName ∧
    (objects typeName).constraint = .plain .object typeName

/-- A type's name is that of its codec, whatever the codecs of object types do. -/
theorem codecWith_name {objects : String → Codec} (h : NamesKept objects) (t : MemberType) :
    (t.codecWith objects).name = t.name := by
  unfold name
  induction t with
  | option content ih => simp [codecWith, Codec.option, ih]
  | list item ih => simp [codecWith, Codec.list, ih]
  | map kind element ih => simp [codecWith, Codec.map, ih]
  | object typeName => exact (h typeName).1
  | _ => rfl

/-- A type's constraint is that of its codec, whatever the codecs of object types do. -/
theorem codecWith_constraint {objects : String → Codec} (h : NamesKept objects) (t : MemberType) :
    (t.codecWith objects).constraint = t.constraint := by
  have hn := codecWith_name h
  unfold constraint
  unfold name at hn
  induction t with
  | option content ih => simp [codecWith, Codec.option, Codec.applied, ih, hn]
  | list item ih => simp [codecWith, Codec.list, Codec.applied, ih, hn]
  | map kind element ih => simp [codecWith, Codec.map, Codec.applied, ih, hn]
  | object typeName => exact (h typeName).2
  | _ => rfl

end MemberType

end ConfigBinding
