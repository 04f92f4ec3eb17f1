import ConfigBinding.Plain.Script
import ConfigBinding.Schema.TypeTable

/-!
# Data of objects as plain data

Numbers, texts and lists are themselves, with the tags that values have where those are needed; what
is optional is nothing or a record with the tag `some`; a map is the list of its pairs; and an
object is a record of its slots. Data of a described type is the value that it describes itself by,
or the script if it is one.

Plain data is read along a type. An object may leave slots out, which then hold what they hold in a
fresh object.
-/

namespace ConfigBinding

open Numeric

/-! ## Writing -/

/-- Data of a described type as plain data. -/
def plainDescribed (type : Bridge.DataType) (data : Bridge.Data) : Plain :=
  match data with
  | .script s => s.toPlain
  | data =>
    match (type.encode data).toValue with
    | .ok v => v.toPlain
    | .error _ => .null

/-- The pairs of a map in the order in which they are shown. A hashed map has no order of its own,
so its keys are sorted. -/
def shown {α : Type} (kind : MapKind) (entries : List (String × α)) : List (String × α) :=
  if kind = .hashed then Keyed.sorted entries else entries

mutual

/-- A datum as plain data. -/
def Datum.toPlain : Datum → Plain
  | .bool b => .bool b
  | .integer n => .integer n
  | .single x => plainFloat (x.convert .double)
  | .double x => plainFloat x
  | .char c => .text (String.ofList [c])
  | .string s => .text s
  | .dateTime t => plainDate t
  | .bigInt n => plainBig n
  | .value v => v.toPlain
  | .tree t => t.toPlain
  | .nothing => .null
  | .just content => .tagged "some" content.toPlain
  | .list items => .list (plainData items)
  | .map kind entries => .list ((shown kind (plainSlots entries)).map fun p => .pair p.1 p.2)
  | .described type data => plainDescribed type data
  | .object ⟨_, slots⟩ => .record (plainSlots slots)

/-- The items of a list as plain data. -/
def plainData : List Datum → List Plain
  | [] => []
  | d :: rest => d.toPlain :: plainData rest

/-- Names with their data as plain data. -/
def plainSlots : List (String × Datum) → List (String × Plain)
  | [] => []
  | (name, d) :: rest => (name, d.toPlain) :: plainSlots rest

end

/-- An object as plain data. -/
def Object.toPlain (o : Object) : Plain := (Datum.object o).toPlain

/-! ## Reading -/

/-- Data of a described type from plain data. -/
def describedOfPlain? (type : Bridge.DataType) (p : Plain) : Option Datum :=
  match type with
  | .script => (fun s => .described type (.script s)) <$> Bridge.Script.ofPlain? p
  | type => do
    let v ← Value.ofPlain? p
    let data ← (type.decode v).toOption
    return .described type data

/-- The only character of a text. -/
def charOfText? (s : String) : Option Datum :=
  match s.toList with
  | [c] => some (.char c)
  | _ => none

mutual

/-- The datum that plain data stands for, as data of a type. -/
def datumOfPlain? (ts : TypeTable) : Plain → MemberType → Option Datum
  | .bool b, .bool => some (.bool b)
  | .integer n, .integer type => if type.contains n then some (.integer n) else none
  | .text s, .char => charOfText? s
  | .text s, .string => some (.string s)
  | p, .single => (fun x => .single (x.convert .single)) <$> floatOfPlain? p
  | p, .double => .double <$> floatOfPlain? p
  | p, .dateTime => .dateTime <$> dateOfPlain? p
  | p, .bigInt => .bigInt <$> bigOfPlain? p
  | p, .value => .value <$> Value.ofPlain? p
  | p, .tree => .tree <$> Tree.ofPlain? p
  | p, .described type => describedOfPlain? type p
  | .null, .option _ => some .nothing
  | .record [("some", p)], .option t => .just <$> datumOfPlain? ts p t
  | .list items, .list t => .list <$> dataOfPlain? ts t items
  | .list pairs, .map kind t =>
    (fun entries => .map kind (kind.arrange (Keyed.ofList entries))) <$> mapOfPlain? ts t pairs
  | .record fields, .object typeName => do
    let t ← ts.find? typeName
    let given ← slotsOfPlain? ts t fields
    return .object (t.freshWith given)
  | _, _ => none

/-- The items of a list that plain data stands for. -/
def dataOfPlain? (ts : TypeTable) (t : MemberType) : List Plain → Option (List Datum)
  | [] => some []
  | p :: rest => do
    let d ← datumOfPlain? ts p t
    let rest ← dataOfPlain? ts t rest
    return d :: rest

/-- The entries of a map that pairs stand for. -/
def mapOfPlain? (ts : TypeTable) (t : MemberType) : List Plain → Option (List (String × Datum))
  | [] => some []
  | .list [.text k, p] :: rest => do
    let d ← datumOfPlain? ts p t
    let rest ← mapOfPlain? ts t rest
    return (k, d) :: rest
  | _ :: _ => none

/-- The slots that the fields of a record name, with their data. Other fields do not count. -/
def slotsOfPlain? (ts : TypeTable) (t : ObjectType MemberType) :
    List (String × Plain) → Option (List (String × Datum))
  | [] => some []
  | (name, p) :: rest =>
    match t.slotType? name with
    | none => slotsOfPlain? ts t rest
    | some type => do
      let d ← datumOfPlain? ts p type
      let rest ← slotsOfPlain? ts t rest
      return (name, d) :: rest

end

/-- The object of a type that plain data stands for. -/
def objectOfPlain? (ts : TypeTable) (t : ObjectType MemberType) : Plain → Option Object
  | .record fields => t.freshWith <$> slotsOfPlain? ts t fields
  | _ => none

end ConfigBinding
