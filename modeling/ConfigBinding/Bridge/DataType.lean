import ConfigBinding.Bridge.Record

/-!
# Described types

A type of data that describes itself: numbers, texts, optionals, lists, maps, structures and
variants. `DataType.encode` gives the script of a piece of data, and `DataType.decode` reads a
piece of data from a value, with the messages that a reader of such types gives.

Two things about reading are decided by the types and not by the values. A structure takes its
fields in any order from a map, and by position from a list. And a type with a fixed number of
components reads that many items, whatever follows them.
-/

namespace ConfigBinding.Bridge

open Numeric

/-- Data of a described type. -/
inductive Data where
  | unit
  | none
  | bool (b : Bool)
  | integer (n : Int)
  | single (x : Binary32)
  | double (x : Binary64)
  | char (c : Char)
  | string (s : String)
  | some (content : Data)
  | seq (items : List Data)
  | map (entries : List (Data × Data))
  | record (fields : List (String × Data))
  | variant (name : String) (content : Data)
  | value (v : Value)
  | script (s : Script)

instance : Inhabited Data := ⟨.unit⟩

/-- The components of a tuple; other data have none. -/
def Data.items : Data → List Data
  | .seq ds => ds
  | _ => []

/-- The fields of a structure; other data have none. -/
def Data.fields : Data → List (String × Data)
  | .record ds => ds
  | _ => []

mutual

/-- A described type. -/
inductive DataType where
  | unit
  | bool
  | integer (type : IntType)
  | single
  | double
  | char
  | string
  | option (content : DataType)
  | list (item : DataType)
  | array (length : Nat) (item : DataType)
  | tuple (items : List DataType)
  /-- Maps in ascending order of their keys. -/
  | map (key value : DataType)
  | unitStruct (name : String)
  | newtypeStruct (name : String) (content : DataType)
  | tupleStruct (name : String) (items : List DataType)
  /-- A structure; a closed one takes no other fields than its own. -/
  | struct (name : String) (closed : Bool) (fields : List Field)
  | enum (name : String) (variants : List Variant)
  /-- Configuration values themselves. -/
  | value
  /-- Whatever arrives, as a script. -/
  | script

/-- A field of a structure: its name, its type, and what it is when it is not given. -/
inductive Field where
  | mk (name : String) (type : DataType) (default : Option Data)

/-- A variant of an enumeration. -/
inductive Variant where
  | unit (name : String)
  | newtype (name : String) (content : DataType)
  | tuple (name : String) (items : List DataType)
  | struct (name : String) (fields : List Field)

end

/-- The name of a field. -/
def Field.name : Field → String
  | ⟨name, _, _⟩ => name

/-- The name of a variant. -/
def Variant.name : Variant → String
  | .unit name | .newtype name _ | .tuple name _ | .struct name _ => name

mutual

/-- The name of a described type. -/
def DataType.typeName : DataType → String
  | .unit => "()"
  | .bool => "bool"
  | .integer type => type.name
  | .single => "f32"
  | .double => "f64"
  | .char => "char"
  | .string => "String"
  | .option t => "Option<" ++ t.typeName ++ ">"
  | .list t => "Vec<" ++ t.typeName ++ ">"
  | .array n t => "[" ++ t.typeName ++ "; " ++ toString n ++ "]"
  | .tuple ts => enclosed "(" ")" (typeNames ts)
  | .map k t => "BTreeMap<" ++ k.typeName ++ ", " ++ t.typeName ++ ">"
  | .unitStruct name | .newtypeStruct name _ | .tupleStruct name _ => name
  | .struct name _ _ => name
  | .enum name _ => name
  | .value => "ConfigValue"
  | .script => "Dyn"

/-- The names of described types. -/
def typeNames : List DataType → List String
  | [] => []
  | t :: ts => t.typeName :: typeNames ts

end

/-! ## Describing data -/

/-- The script of data that does not belong to its type. -/
def strayData : Script := .fail "data of another type"

mutual

/-- The script of a piece of data. -/
def DataType.encode : DataType → Data → Script
  | .unit, _ => .unit
  | .bool, .bool b => .bool b
  | .integer type, .integer n => .integer type n
  | .single, .single x => .single x
  | .double, .double x => .double x
  | .char, .char c => .char c
  | .string, .string s => .str s
  | .option _, .none => .none
  | .option t, .some d => .some (t.encode d)
  | .list t, .seq ds => .seq (ds.map fun d => t.encode d)
  | .array _ t, .seq ds => .tuple (ds.map fun d => t.encode d)
  | .tuple ts, .seq ds => .tuple (encodeItems ts ds)
  | .map k v, .map entries => .map (entries.map fun p => .entry (k.encode p.1) (v.encode p.2))
  | .unitStruct name, _ => .unitStruct name
  | .newtypeStruct _ t, d => .newtypeStruct (t.encode d)
  | .tupleStruct _ ts, .seq ds => .tupleStruct (encodeItems ts ds)
  | .struct _ _ fields, .record ds => .struct (encodeFields fields ds)
  | .enum _ variants, .variant name content => encodeVariant name content variants
  | .value, .value v => .value v
  | .script, .script s => s
  | _, _ => strayData

/-- The scripts of the components of a tuple. -/
def encodeItems : List DataType → List Data → List Script
  | t :: ts, d :: ds => t.encode d :: encodeItems ts ds
  | _, _ => []

/-- The scripts of the fields of a structure. -/
def encodeFields : List Field → List (String × Data) → List (String × Script)
  | ⟨name, t, _⟩ :: fields, ds =>
    (name, match Keyed.get? ds name with
      | some d => t.encode d
      | none => strayData) :: encodeFields fields ds
  | [], _ => []

/-- The script of a variant. -/
def encodeVariant (name : String) (content : Data) : List Variant → Script
  | [] => strayData
  | .unit n :: rest =>
    if n = name then .unitVariant n else encodeVariant name content rest
  | .newtype n t :: rest =>
    if n = name then .newtypeVariant n (t.encode content) else encodeVariant name content rest
  | .tuple n ts :: rest =>
    if n = name then
      match content with
      | .seq ds => .tupleVariant n (encodeItems ts ds)
      | _ => strayData
    else encodeVariant name content rest
  | .struct n fields :: rest =>
    if n = name then
      match content with
      | .record ds => .structVariant n (encodeFields fields ds)
      | _ => strayData
    else encodeVariant name content rest

end

/-! ## Reading data -/

/-- How a field is read: from its value, and when it is missing from a map or from a list. -/
structure FieldReader where
  name : String
  read : Value → Result Data
  absent : Result Data
  /-- What the field is when the list ends before it, if the list may. -/
  beyond : Option Data

/-- How a variant is read from its content. -/
structure VariantReader where
  name : String
  read : Option Value → Result Data

/-- Whether the first of two keys of a map comes before the second, and whether it comes behind it:
the rest of the keys decides if neither does. -/
def lexStep (before behind rest : Bool) : Bool := before || (!behind && rest)

/-- Lists compared item by item; a list that ends comes before one that goes on. -/
def lexBefore {α : Type} (before : α → α → Bool) : List α → List α → Bool
  | [], bs => !bs.isEmpty
  | _ :: _, [] => false
  | a :: as, b :: bs => lexStep (before a b) (before b a) (lexBefore before as bs)

mutual

/-- Whether the first key of a type comes before the second in a map. Nothing comes before
something, and what is made of parts is compared part by part; the variants of an enumeration come
in their order. Floats, configuration values and scripts have no order, and are no keys. -/
def DataType.keyBefore : DataType → Data → Data → Bool
  | .bool, .bool a, .bool b => !a && b
  | .integer _, .integer a, .integer b => a < b
  | .char, .char a, .char b => a < b
  | .string, .string a, .string b => a < b
  | .option _, .none, .some _ => true
  | .option t, .some a, .some b => t.keyBefore a b
  | .list t, .seq as, .seq bs => lexBefore (fun a b => t.keyBefore a b) as bs
  | .array _ t, .seq as, .seq bs => lexBefore (fun a b => t.keyBefore a b) as bs
  | .tuple ts, .seq as, .seq bs => itemsBefore ts as bs
  | .map k t, .map as, .map bs =>
    lexBefore (fun p q => lexStep (k.keyBefore p.1 q.1) (k.keyBefore q.1 p.1)
      (t.keyBefore p.2 q.2)) as bs
  | .newtypeStruct _ t, a, b => t.keyBefore a b
  | .tupleStruct _ ts, .seq as, .seq bs => itemsBefore ts as bs
  | .struct _ _ fields, .record as, .record bs => fieldsBefore fields as bs
  | .enum _ variants, .variant m a, .variant n b => variantBefore m n a b variants
  | _, _, _ => false

/-- The components of two tuples, compared one by one. -/
def itemsBefore : List DataType → List Data → List Data → Bool
  | t :: ts, a :: as, b :: bs => lexStep (t.keyBefore a b) (t.keyBefore b a) (itemsBefore ts as bs)
  | _, _, _ => false

/-- The fields of two structures, which stand in the order of the type. -/
def fieldsBefore : List Field → List (String × Data) → List (String × Data) → Bool
  | ⟨_, t, _⟩ :: fields, (_, a) :: as, (_, b) :: bs =>
    lexStep (t.keyBefore a b) (t.keyBefore b a) (fieldsBefore fields as bs)
  | _, _, _ => false

/-- The contents of two values of a variant. -/
def Variant.contentBefore : Variant → Data → Data → Bool
  | .unit _, _, _ => false
  | .newtype _ t, a, b => t.keyBefore a b
  | .tuple _ ts, a, b => itemsBefore ts a.items b.items
  | .struct _ fields, a, b => fieldsBefore fields a.fields b.fields

/-- Two variants with their contents, compared by the order of the variants first. -/
def variantBefore (m n : String) (a b : Data) : List Variant → Bool
  | [] => false
  | v :: rest =>
    if v.name = m then v.name ≠ n || v.contentBefore a b
    else v.name ≠ n && variantBefore m n a b rest

end

/-- Stores a value in a map at the place that the order of its keys asks for. Two keys are the same
if none comes before the other. -/
def insertSorted (before : Data → Data → Bool) :
    List (Data × Data) → Data → Data → List (Data × Data)
  | [], key, value => [(key, value)]
  | (k, v) :: rest, key, value =>
    if before k key then (k, v) :: insertSorted before rest key value
    else if before key k then (key, value) :: (k, v) :: rest
    else (k, value) :: rest

/-- The integer of a type. Integers of 128 bits are taken by types of that width only. -/
def readInteger (type : IntType) : Incoming → Result Data
  | .integer from_ n =>
    if type.bits < from_.bits ∧ from_.bits = 128 then
      refuse (.wrongType (.integer from_ n) type.name)
    else if type.contains n then .ok (.integer n)
    else if from_.bits = 128 then refuse (.wrongValue from_.name type.name)
    else refuse (.wrongValue (Incoming.integer from_ n).describe type.name)
  | found => refuse (.wrongType found type.name)

/-- The float of a format; an integer goes to the nearest one. -/
def readFloat (f : Format) (name : String) : Incoming → Result (Binary f)
  | .float x => .ok (x.convert f)
  | .integer from_ n =>
    if from_.bits = 128 then refuse (.wrongType (.integer from_ n) name) else .ok (Binary.ofInt f n)
  | found => refuse (.wrongType found name)

/-- The character of a text of one. -/
def readChar : Incoming → Result Data
  | .str s =>
    match s.toList with
    | [c] => .ok (.char c)
    | _ => refuse (.wrongValue (Incoming.str s).describe "a character")
  | found => refuse (.wrongType found "a character")

/-- Reads the components of a tuple from the items of a list, `index` of which have been read;
`expected` describes the tuple, and what follows the last component is not looked at. -/
def readComponents (expected : String) (index : Nat) :
    List (Value → Result Data) → List Value → Result (List Data)
  | [], _ => .ok []
  | _ :: _, [] => refuse (.wrongLength index expected)
  | read :: readers, v :: rest => do
    let d ← read v
    let ds ← readComponents expected (index + 1) readers rest
    return d :: ds

/-- Reads the fields of a structure from the items of a list. -/
def readPositional (expected : String) (index : Nat) :
    List FieldReader → List Value → Result (List (String × Data))
  | [], _ => .ok []
  | field :: fields, items => do
    let (d, rest) ← match items with
      | v :: rest => do
        let d ← field.read v
        pure (d, rest)
      | [] =>
        match field.beyond with
        | some d => pure (d, [])
        | none => refuse (.wrongLength index expected)
    let ds ← readPositional expected (index + 1) fields rest
    return (field.name, d) :: ds

/-- Reads the entries of a map that are fields of a structure. -/
def readEntries (closed : Bool) (fields : List FieldReader) :
    List (String × Value) → Result (List (String × Data))
  | [] => .ok []
  | (k, v) :: rest =>
    match fields.find? (·.name = k) with
    | some field => do
      let d ← field.read v
      let ds ← readEntries closed fields rest
      return (k, d) :: ds
    | none =>
      if closed then refuse (.unknownField k (fields.map (·.name)))
      else readEntries closed fields rest

/-- The fields of a structure in their order, given those that were read. -/
def completeFields (read : List (String × Data)) :
    List FieldReader → Result (List (String × Data))
  | [] => .ok []
  | field :: fields => do
    let d ← match Keyed.get? read field.name with
      | some d => pure d
      | none => field.absent
    let ds ← completeFields read fields
    return (field.name, d) :: ds

/-- Reads the fields of a structure from a map. -/
def readNamed (closed : Bool) (fields : List FieldReader) (entries : List (String × Value)) :
    Result Data := do
  let read ← readEntries closed fields entries
  .record <$> completeFields read fields

/-- Reads a map, and sorts it. -/
def readMap (before : Data → Data → Bool) (key value : Value → Result Data)
    (read : List (Data × Data)) : List (String × Value) → Result (List (Data × Data))
  | [] => .ok read
  | (k, v) :: rest => do
    let k ← key (.string k)
    let v ← value v
    readMap before key value (insertSorted before read k v) rest

/-- A type with a fixed number of components, in messages. -/
def withElements (kind : String) (n : Nat) : String :=
  kind ++ " with " ++ toString n ++ (if n = 1 then " element" else " elements")

mutual

/-- A configuration value as it arrives; integers of 128 bits are not taken. -/
def readValue : Value → Result Value
  | .list items => .list <$> readValues items
  | .config ⟨entries, _⟩ => (fun es => .config ⟨es, []⟩) <$> readValueEntries [] entries
  | v =>
    match Incoming.of v with
    | .unit => .ok .null
    | .bool b => .ok (.bool b)
    | .integer type n =>
      if type.bits = 128 then refuse (.wrongType (.integer type n) "any valid config value")
      else .ok (.ofInt n)
    | .float x => .ok (.number (.float x))
    | .str s => .ok (.string s)
    | .seq items => .ok (.list items)
    | .map entries => .ok (.config ⟨entries, []⟩)

/-- The items of a list as they arrive. -/
def readValues : List Value → Result (List Value)
  | [] => .ok []
  | v :: rest => do
    let v ← readValue v
    let rest ← readValues rest
    return v :: rest

/-- The entries of a map as they arrive, behind the given ones. -/
def readValueEntries (read : List (String × Value)) :
    List (String × Value) → Result (List (String × Value))
  | [] => .ok read
  | (k, v) :: rest => do
    let v ← readValue v
    readValueEntries (Keyed.insert read k v) rest

end

mutual

/-- Reads a piece of data from a value. -/
def DataType.decode : DataType → Value → Result Data
  | .unit, v =>
    match Incoming.of v with
    | .unit => .ok .unit
    | found => refuse (.wrongType found "unit")
  | .bool, v =>
    match Incoming.of v with
    | .bool b => .ok (.bool b)
    | found => refuse (.wrongType found "a boolean")
  | .integer type, v => readInteger type (Incoming.of v)
  | .single, v => .single <$> readFloat .single "f32" (Incoming.of v)
  | .double, v => .double <$> readFloat .double "f64" (Incoming.of v)
  | .char, v => readChar (Incoming.of v)
  | .string, v =>
    match Incoming.of v with
    | .str s => .ok (.string s)
    | found => refuse (.wrongType found "a string")
  | .option t, v => if v.isNull then .ok .none else .some <$> t.decode v
  | .list t, v =>
    match Incoming.of v with
    | .seq items => .seq <$> items.mapM fun item => t.decode item
    | found => refuse (.wrongType found "a sequence")
  | .array n t, v =>
    let expected := "an array of length " ++ toString n
    match Incoming.of v with
    | .seq items =>
      .seq <$> readComponents expected 0 (List.replicate n fun item => t.decode item) items
    | found => refuse (.wrongType found expected)
  | .tuple ts, v =>
    let expected := "a tuple of size " ++ toString ts.length
    match Incoming.of v with
    | .seq items => .seq <$> readComponents expected 0 (itemReaders ts) items
    | found => refuse (.wrongType found expected)
  | .map k t, v =>
    match Incoming.of v with
    | .map entries =>
      .map <$> readMap k.keyBefore (fun x => k.decode x) (fun x => t.decode x) [] entries
    | found => refuse (.wrongType found "a map")
  | .unitStruct name, v =>
    match Incoming.of v with
    | .unit => .ok .unit
    | found => refuse (.wrongType found ("unit struct " ++ name))
  | .newtypeStruct _ t, v => t.decode v
  | .tupleStruct name ts, v =>
    let expected := "tuple struct " ++ name
    match Incoming.of v with
    | .seq items =>
      .seq <$> readComponents (withElements expected ts.length) 0 (itemReaders ts) items
    | found => refuse (.wrongType found expected)
  | .struct name closed fields, v =>
    let expected := "struct " ++ name
    let readers := fieldReaders fields
    match Incoming.of v with
    | .seq items => .record <$> readPositional (withElements expected fields.length) 0 readers items
    | .map entries => readNamed closed readers entries
    | found => refuse (.wrongType found expected)
  | .enum name variants, v => do
    let (variant, content) ← variantOf v
    let readers := variantReaders name variants
    match readers.find? (·.name = variant) with
    | some reader => .variant variant <$> reader.read content
    | none => refuse (.unknownVariant variant (readers.map (·.name)))
  | .value, v => .value <$> readValue v
  | .script, v => .ok (.script (describe v))

/-- The readers of the components of a tuple. -/
def itemReaders : List DataType → List (Value → Result Data)
  | [] => []
  | t :: ts => (fun v => t.decode v) :: itemReaders ts

/-- The readers of the fields of a structure. An optional field that is missing from a map is
`none`. -/
def fieldReaders : List Field → List FieldReader
  | [] => []
  | ⟨name, t, default⟩ :: fields =>
    { name := name
      read := fun v => t.decode v
      absent :=
        match default, t with
        | some d, _ => .ok d
        | none, .option _ => .ok .none
        | none, _ => refuse (.missingField name)
      beyond := default } :: fieldReaders fields

/-- The readers of the variants of an enumeration. -/
def variantReaders (typeName : String) : List Variant → List VariantReader
  | [] => []
  | .unit name :: rest =>
    { name := name
      read := fun content =>
        match content with
        | none | some .null => .ok .unit
        | _ => refuse (.wrongContent "a unit variant") } :: variantReaders typeName rest
  | .newtype name t :: rest =>
    { name := name
      read := fun content =>
        match content with
        | some v => t.decode v
        | none => refuse (.wrongContent "a newtype variant") } :: variantReaders typeName rest
  | .tuple name ts :: rest =>
    { name := name
      read := fun content =>
        match content with
        | some (.list items) =>
          let kind := "tuple variant " ++ typeName ++ "::" ++ name
          .seq <$> readComponents (withElements kind ts.length) 0 (itemReaders ts) items
        | _ => refuse (.wrongContent "a tuple variant") } :: variantReaders typeName rest
  | .struct name fields :: rest =>
    { name := name
      read := fun content =>
        match content with
        | some (.config t) => readNamed false (fieldReaders fields) t.entries
        | _ => refuse (.wrongContent "a struct variant") } :: variantReaders typeName rest

end

/-! ## Inspection -/

mutual

/-- The text of a piece of data in inspection. -/
def DataType.inspect : DataType → Data → String
  | .option _, .none => inspectOption none
  | .option t, .some d => inspectOption (some (t.inspect d))
  | .list t, .seq ds => enclosed "[" "]" (ds.map fun d => t.inspect d)
  | .array _ t, .seq ds => enclosed "[" "]" (ds.map fun d => t.inspect d)
  | .tuple ts, .seq ds => enclosed "(" ")" (inspectItems ts ds)
  | .map k t, .map entries =>
    enclosed "\x7b" "\x7d" (entries.map fun p => k.inspect p.1 ++ ": " ++ t.inspect p.2)
  | .unitStruct name, _ => name
  | .newtypeStruct name t, d => inspectCall name [t.inspect d]
  | .tupleStruct name ts, .seq ds => inspectCall name (inspectItems ts ds)
  | .struct name _ fields, .record ds => inspectFields name (inspectRecord fields ds)
  | .enum _ variants, .variant name content => inspectVariant name content variants
  | .script, _ => "Dyn"
  | _, .unit => "()"
  | _, .bool b => toString b
  | _, .integer n => toString n
  | _, .single x => Layout.inspected.write x
  | _, .double x => Layout.inspected.write x
  | _, .char c => Text.Quoted.char c
  | _, .string s => Text.Quoted.string s
  | _, .value v => v.inspect
  | _, _ => ""

/-- The texts of the components of a tuple. -/
def inspectItems : List DataType → List Data → List String
  | t :: ts, d :: ds => t.inspect d :: inspectItems ts ds
  | _, _ => []

/-- The texts of the fields of a structure. -/
def inspectRecord : List Field → List (String × Data) → List (String × String)
  | ⟨name, t, _⟩ :: fields, ds =>
    (name, ((Keyed.get? ds name).map fun d => t.inspect d).getD "") :: inspectRecord fields ds
  | [], _ => []

/-- The text of a variant. -/
def inspectVariant (name : String) (content : Data) : List Variant → String
  | [] => name
  | .unit n :: rest => if n = name then n else inspectVariant name content rest
  | .newtype n t :: rest =>
    if n = name then inspectCall n [t.inspect content] else inspectVariant name content rest
  | .tuple n ts :: rest =>
    if n = name then
      match content with
      | .seq ds => inspectCall n (inspectItems ts ds)
      | _ => n
    else inspectVariant name content rest
  | .struct n fields :: rest =>
    if n = name then
      match content with
      | .record ds => inspectFields n (inspectRecord fields ds)
      | _ => n
    else inspectVariant name content rest

end

end ConfigBinding.Bridge
