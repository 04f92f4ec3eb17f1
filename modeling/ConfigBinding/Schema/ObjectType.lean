import ConfigBinding.Schema.Read

/-!
# Object types

An object type has slots, each with what a fresh object holds in it, and a schema that makes some
of them members. As the type of a member it goes by the schema: its native form is the tree that
the object is written as, and reading starts from a fresh object.

The types of slots and members are left open. To run an object type, its members' types have to be
replaced by codecs (`ObjectType.mapType`). `ObjectType.codec` does so only when an object is there
to be converted: the objects of a type may hold further objects of the same type, so the codecs of
its members may in turn be made from its own.
-/

namespace ConfigBinding

/-- A slot of an object type. -/
structure Slot (τ : Type) where
  name : String
  type : τ
  /-- What a fresh object holds in the slot. -/
  initial : Datum

/-- An object type. Its name is that of the slots' holder; the schema may go by another one. -/
structure ObjectType (τ : Type) where
  name : String
  slots : List (Slot τ)
  schema : Schema τ

namespace ObjectType

variable {τ : Type}

/-- A fresh object. -/
def fresh (t : ObjectType τ) : Object := ⟨t.name, t.slots.map fun s => (s.name, s.initial)⟩

/-- An object that holds the given data in some of its slots, and is fresh in the others. -/
def freshWith (t : ObjectType τ) (given : List (String × Datum)) : Object :=
  ⟨t.name, t.slots.map fun s => (s.name, (Keyed.get? given s.name).getD s.initial)⟩

/-- The type of a slot. -/
def slotType? (t : ObjectType τ) (slot : String) : Option τ :=
  (t.slots.find? (·.name = slot)).map Slot.type

/-- The object type with other descriptions of the types of its slots and members. -/
def mapType {υ : Type} (f : τ → υ) (t : ObjectType τ) : ObjectType υ :=
  ⟨t.name, t.slots.map fun s => ⟨s.name, f s.type, s.initial⟩, t.schema.mapType f⟩

/-- Fresh objects do not depend on how types are described. -/
@[simp] theorem fresh_mapType {υ : Type} (f : τ → υ) (t : ObjectType τ) :
    (t.mapType f).fresh = t.fresh := by
  simp [fresh, mapType, Function.comp_def]

/-- Reads a fresh object. -/
def readNew {σ : Type} [Store σ] (t : ObjectType Codec) (o : Options) (source : σ) :
    Result Object :=
  t.schema.readOver o source t.fresh

/-- The object type as the type of a member, given the codecs of its own members' types. -/
def codec (t : ObjectType τ) (codecOf : τ → Codec) : Codec where
  name := t.name
  constraint := .plain .object t.name
  toNative o
    | .object x => .config <$> (t.mapType codecOf).schema.toTree o x
    | _ => Codec.stray
  fromNative o
    | .config tree => .object <$> (t.mapType codecOf).readNew o tree
    | v => .error (.ofFault (.notTree t.name v))

end ObjectType

end ConfigBinding
