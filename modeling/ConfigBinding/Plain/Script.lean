import ConfigBinding.Bridge.Record
import ConfigBinding.Plain.Value

/-!
# Scripts and recordings as plain data

A call is a record whose only field is named for the call and holds its arguments; the two calls
without arguments are texts. Integers of 128 bits are decimal texts. A step of a map is a pair of
key and value, a list with the key alone, or a pair whose key is nothing.

A recording is written as the script that it replays, except that a variant stays apart from the
calls of a script.
-/

namespace ConfigBinding.Bridge

open Numeric

/-- The argument of a call that describes an integer. -/
def plainInteger (type : IntType) (n : Int) : Plain :=
  if type.bits = 128 then .text (toString n) else .integer n

/-- A call that describes an integer. -/
def integerCall (type : IntType) (n : Int) : Plain := .tagged type.name (plainInteger type n)

/-! ## Writing -/

mutual

/-- A script as plain data. -/
def Script.toPlain : Script → Plain
  | .unit => .text "unit"
  | .none => .text "none"
  | .bool b => .tagged "bool" (.bool b)
  | .integer type n => integerCall type n
  | .single x => .tagged "f32" (plainFloat (x.convert .double))
  | .double x => .tagged "f64" (plainFloat x)
  | .char c => .tagged "char" (.text (String.ofList [c]))
  | .str s => .tagged "str" (.text s)
  | .bytes bs => .tagged "bytes" (.list (bs.map fun b => .integer b.toNat))
  | .some content => .tagged "some" content.toPlain
  | .newtypeStruct content => .tagged "newtype_struct" content.toPlain
  | .unitStruct name => .tagged "unit_struct" (.text name)
  | .unitVariant name => .tagged "unit_variant" (.text name)
  | .newtypeVariant name content => .tagged "newtype_variant" (.pair name content.toPlain)
  | .seq items => .tagged "seq" (.list (plainScripts items))
  | .tuple items => .tagged "tuple" (.list (plainScripts items))
  | .tupleStruct items => .tagged "tuple_struct" (.list (plainScripts items))
  | .tupleVariant name items => .tagged "tuple_variant" (.pair name (.list (plainScripts items)))
  | .map steps => .tagged "map" (.list (plainSteps steps))
  | .struct fields => .tagged "struct" (.list (plainFields fields))
  | .structVariant name fields =>
    .tagged "struct_variant" (.pair name (.list (plainFields fields)))
  | .value v => .tagged "value" v.toPlain
  | .fail message => .tagged "error" (.text message)

/-- Scripts as plain data. -/
def plainScripts : List Script → List Plain
  | [] => []
  | s :: rest => s.toPlain :: plainScripts rest

/-- The fields of a structure as pairs. -/
def plainFields : List (String × Script) → List Plain
  | [] => []
  | (name, s) :: rest => .pair name s.toPlain :: plainFields rest

/-- The steps of the description of a map as lists. -/
def plainSteps : List MapStep → List Plain
  | [] => []
  | step :: rest => step.toPlain :: plainSteps rest

/-- A step of the description of a map as a list. -/
def MapStep.toPlain : MapStep → Plain
  | .entry key value => .list [key.toPlain, value.toPlain]
  | .key key => .list [key.toPlain]
  | .value value => .list [.null, value.toPlain]

end

mutual

/-- A recording as plain data. -/
def Recording.toPlain : Recording → Plain
  | .unit => .text "unit"
  | .none => .text "none"
  | .bool b => .tagged "bool" (.bool b)
  | .integer type n => integerCall type n
  | .double x => .tagged "f64" (plainFloat x)
  | .str s => .tagged "str" (.text s)
  | .some content => .tagged "some" content.toPlain
  | .newtypeStruct content => .tagged "newtype_struct" content.toPlain
  | .seq items => .tagged "seq" (.list (plainRecordings items))
  | .map entries => .tagged "map" (.list (plainRecordingEntries entries))
  | .variant name content => .tagged "variant" (.list [.tagged "str" (.text name), content.toPlain])

/-- The recordings of items as plain data. -/
def plainRecordings : List Recording → List Plain
  | [] => []
  | r :: rest => r.toPlain :: plainRecordings rest

/-- The recordings of entries as pairs. -/
def plainRecordingEntries : List (String × Recording) → List Plain
  | [] => []
  | (k, r) :: rest => .list [.tagged "str" (.text k), r.toPlain] :: plainRecordingEntries rest

end

/-! ## Reading -/

/-- The integer type of a call. -/
def integerType? (call : String) : Option IntType :=
  [IntType.i8, .i16, .i32, .i64, .i128, .u8, .u16, .u32, .u64, .u128].find? (·.name = call)

/-- The integer that is the argument of a call. -/
def integerOfPlain? : Plain → Option Int
  | .integer n => some n
  | .text s => s.toInt?
  | _ => none

/-- The script of a call whose argument holds no script. -/
def Script.ofCall? (call : String) (argument : Plain) : Option Script :=
  match call, argument with
  | "bool", .bool b => Option.some (.bool b)
  | "f32", p => (fun x => .single (x.convert .single)) <$> floatOfPlain? p
  | "f64", p => .double <$> floatOfPlain? p
  | "char", .text s =>
    match s.toList with
    | [c] => Option.some (.char c)
    | _ => Option.none
  | "str", .text s => Option.some (.str s)
  | "bytes", .list items =>
    (fun ns => .bytes (ns.map fun n => UInt8.ofNat n.toNat)) <$> items.mapM Plain.integer?
  | "unit_struct", .text name => Option.some (.unitStruct name)
  | "unit_variant", .text name => Option.some (.unitVariant name)
  | "value", p => .value <$> Value.ofPlain? p
  | "error", .text message => Option.some (.fail message)
  | call, p => do
    let type ← integerType? call
    let n ← integerOfPlain? p
    if type.contains n then Option.some (.integer type n) else Option.none

mutual

/-- The script that plain data stands for. -/
def Script.ofPlain? : Plain → Option Script
  | .text "unit" => Option.some .unit
  | .text "none" => Option.some .none
  | .record [("some", p)] => .some <$> Script.ofPlain? p
  | .record [("newtype_struct", p)] => .newtypeStruct <$> Script.ofPlain? p
  | .record [("newtype_variant", .list [.text name, p])] =>
    .newtypeVariant name <$> Script.ofPlain? p
  | .record [("seq", .list items)] => .seq <$> scriptsOfPlain? items
  | .record [("tuple", .list items)] => .tuple <$> scriptsOfPlain? items
  | .record [("tuple_struct", .list items)] => .tupleStruct <$> scriptsOfPlain? items
  | .record [("tuple_variant", .list [.text name, .list items])] =>
    .tupleVariant name <$> scriptsOfPlain? items
  | .record [("map", .list steps)] => .map <$> stepsOfPlain? steps
  | .record [("struct", .list fields)] => .struct <$> fieldsOfPlain? fields
  | .record [("struct_variant", .list [.text name, .list fields])] =>
    .structVariant name <$> fieldsOfPlain? fields
  | .record [(call, argument)] => Script.ofCall? call argument
  | _ => Option.none

/-- The scripts of a list. -/
def scriptsOfPlain? : List Plain → Option (List Script)
  | [] => some []
  | p :: rest => do
    let s ← Script.ofPlain? p
    let rest ← scriptsOfPlain? rest
    return s :: rest

/-- The fields of a structure from pairs. -/
def fieldsOfPlain? : List Plain → Option (List (String × Script))
  | [] => some []
  | .list [.text name, p] :: rest => do
    let s ← Script.ofPlain? p
    let rest ← fieldsOfPlain? rest
    return (name, s) :: rest
  | _ :: _ => none

/-- The steps of the description of a map from lists. -/
def stepsOfPlain? : List Plain → Option (List MapStep)
  | [] => some []
  | .list [key] :: rest => do
    let key ← Script.ofPlain? key
    let rest ← stepsOfPlain? rest
    return .key key :: rest
  | .list [.null, value] :: rest => do
    let value ← Script.ofPlain? value
    let rest ← stepsOfPlain? rest
    return .value value :: rest
  | .list [key, value] :: rest => do
    let key ← Script.ofPlain? key
    let value ← Script.ofPlain? value
    let rest ← stepsOfPlain? rest
    return .entry key value :: rest
  | _ :: _ => none

end

end ConfigBinding.Bridge
