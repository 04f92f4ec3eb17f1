import ConfigBinding.Bridge.DataType
import ConfigBinding.Tree.Basic

/-!
# What objects hold

An object is a record of slots, and a `Datum` is what a slot can hold: plain data of the host
program, configuration values, data of a described type, or again an object. A datum knows by
itself whether it is null, whether it is empty, and how it is shown; only its way into a
configuration and back depends on the type that it is declared with.

An object that other objects are built on sits in one of their slots. `Object.part` is the object
at the end of such a chain of slots, and `Object.updatePart` changes it where it is.
-/

namespace ConfigBinding

open Numeric Time

/-- The kinds of maps. A sorted map holds its entries in ascending order of their keys, and an
indexed one in the order in which they came. The order of a hashed map cannot be relied on: two that
hold the same entries may hold them in different orders. -/
inductive MapKind where
  | sorted
  | hashed
  | indexed
  deriving DecidableEq, Repr

namespace MapKind

/-- The name of the kind. -/
def name : MapKind → String
  | .sorted => "BTreeMap"
  | .hashed => "HashMap"
  | .indexed => "IndexMap"

/-- Entries with distinct keys in an order in which a map of the kind may hold them. For a hashed
map any order is as good as the one in which they came. -/
def arrange {α : Type} (kind : MapKind) (entries : List (String × α)) : List (String × α) :=
  match kind with
  | .sorted => Keyed.sorted entries
  | .hashed | .indexed => entries

end MapKind

mutual

/-- What a slot of an object holds. -/
inductive Datum where
  | bool (b : Bool)
  | integer (n : Int)
  | single (x : Binary32)
  | double (x : Binary64)
  | char (c : Char)
  | string (s : String)
  | dateTime (t : Instant)
  | bigInt (n : Int)
  /-- A configuration value. -/
  | value (v : Value)
  /-- A map of a configuration. -/
  | tree (t : Tree)
  /-- Nothing, where something is optional. -/
  | nothing
  /-- Something, where it is optional. -/
  | just (content : Datum)
  | list (items : List Datum)
  /-- A map, with its entries in the order in which it holds them. -/
  | map (kind : MapKind) (entries : List (String × Datum))
  /-- Data that describes itself. -/
  | described (type : Bridge.DataType) (data : Bridge.Data)
  | object (o : Object)

/-- An object: the name of its type, and its slots. -/
structure Object where
  typeName : String
  slots : List (String × Datum)

end

instance : Inhabited Datum := ⟨.nothing⟩

namespace Datum

/-- Whether the datum is null: nothing where something is optional, or the null marker. -/
def isNull : Datum → Bool
  | .nothing => true
  | .value v => v.isNull
  | _ => false

/-- Whether there is nothing in the datum, for those kinds of data that can be empty. Nothing where
something is optional is null, and not empty. -/
def isEmpty? : Datum → Option Bool
  | .string s => some s.isEmpty
  | .just content => content.isEmpty?
  | .list items => some items.isEmpty
  | .map _ entries => some entries.isEmpty
  | .tree t => some t.isEmpty
  | .value v => v.isEmpty?
  | _ => none

mutual

/-- The text of a datum in inspection. -/
def inspect : Datum → String
  | .bool b => toString b
  | .integer n => toString n
  | .single x => Layout.inspected.write x
  | .double x => Layout.inspected.write x
  | .char c => Text.Quoted.char c
  | .string s => Text.Quoted.string s
  | .dateTime t => t.inspect
  | .bigInt n => toString n
  | .value v => v.inspect
  | .tree t => t.inspect
  | .nothing => inspectOption none
  | .just content => inspectOption (some content.inspect)
  | .list items => enclosed "[" "]" (inspectData items)
  | .map _ entries => inspectMap (inspectSlots entries)
  | .described type data => inspectCall "Serde" [type.inspect data]
  | .object ⟨typeName, slots⟩ => inspectFields typeName (inspectSlots slots)

/-- The texts of the items of a list. -/
def inspectData : List Datum → List String
  | [] => []
  | d :: rest => d.inspect :: inspectData rest

/-- Names with the texts of their data. -/
def inspectSlots : List (String × Datum) → List (String × String)
  | [] => []
  | (name, d) :: rest => (name, d.inspect) :: inspectSlots rest

end

end Datum

namespace Object

/-- What a slot holds. -/
def get? (o : Object) (slot : String) : Option Datum := Keyed.get? o.slots slot

/-- What a slot holds; a slot that the object has not holds nothing. -/
def get (o : Object) (slot : String) : Datum := (o.get? slot).getD .nothing

/-- Puts a datum into a slot. -/
def set (o : Object) (slot : String) (d : Datum) : Object :=
  ⟨o.typeName, Keyed.insert o.slots slot d⟩

/-- The object in a slot, if there is one. -/
def embedded? (o : Object) (slot : String) : Option Object :=
  match o.get? slot with
  | some (.object sub) => some sub
  | _ => none

/-- The object at the end of a chain of slots; an object without slots where the chain breaks. -/
def part : List String → Object → Object
  | [], o => o
  | slot :: rest, o =>
    match o.embedded? slot with
    | some sub => part rest sub
    | none => ⟨"", []⟩

/-- Changes the object at the end of a chain of slots; nothing changes where the chain breaks. -/
def updatePart (f : Object → Object) : List String → Object → Object
  | [], o => f o
  | slot :: rest, o =>
    match o.embedded? slot with
    | some sub => o.set slot (.object (updatePart f rest sub))
    | none => o

/-- The text of an object in inspection. -/
def inspect (o : Object) : String := (Datum.object o).inspect

end Object

end ConfigBinding
