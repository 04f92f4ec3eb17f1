import ConfigBinding.Converter.Builtin
import ConfigBinding.Value.Text

/-!
# The registry of converters

A registry holds the converters of its caller, which are asked before the built-in ones, in the
order in which they were added. The first one that accepts a value and its declared type converts
it.

The built-in converters go down into a value and its type, so they come to an end. A caller's
converter may ask for the conversion of any value whatever, so the registry says how many such
questions it follows inside one another (`Registry.nesting`); a deeper one fails. Everything a
caller's converter needs fits into this as long as it does not ask without end.

`Registry.writeNested_eq` and `Registry.readNested_eq` give conversion as it is meant: look the
converter up, and let it convert, asking again for the values inside. The definitions themselves
recurse on the value and on the type instead, which shows that they end.
-/

namespace ConfigBinding

/-- The converters of a caller, in the order in which they were added. -/
structure Registry where
  serializers : List Serializer := []
  deserializers : List Deserializer := []
  /-- How many questions of the caller's converters are followed inside one another. -/
  nesting : Nat := 1000

namespace Registry

/-- The registry with the built-in converters only. -/
def builtin : Registry := {}

/-- Adds a serializer behind the ones added before. -/
def registerSerializer (r : Registry) (s : Serializer) : Registry :=
  { r with serializers := r.serializers ++ [s] }

/-- Adds a deserializer behind the ones added before. -/
def registerDeserializer (r : Registry) (d : Deserializer) : Registry :=
  { r with deserializers := r.deserializers ++ [d] }

/-- All serializers, in the order in which they are asked. -/
def allSerializers (r : Registry) : List Serializer := r.serializers ++ Serializer.builtin

/-- All deserializers, in the order in which they are asked. -/
def allDeserializers (r : Registry) : List Deserializer := r.deserializers ++ Deserializer.builtin

/-- The first serializer that accepts a value. -/
def findSerializer (r : Registry) (v : Value) (c : Constraint) : Result Serializer :=
  match r.allSerializers.find? (·.accepts v c) with
  | some s => .ok s
  | none => .error (.ofFault (.noSerializer v c.typeName))

/-- The first deserializer that accepts a value. -/
def findDeserializer (r : Registry) (v : Option Value) (c : Constraint) : Result Deserializer :=
  match r.allDeserializers.find? (·.accepts v c) with
  | some d => .ok d
  | none => .error (.ofFault (.noDeserializer v c.typeName))

/-- The text of a registry in inspection. -/
def inspect (r : Registry) : String :=
  inspectFields "ConverterRegistry"
    [("serializers", enclosed "[" "]" (r.allSerializers.map (Text.Quoted.string ·.name))),
     ("deserializers", enclosed "[" "]" (r.allDeserializers.map (Text.Quoted.string ·.name)))]

/-! ## Writing -/

/-- What the caller's serializers make of a value, when one of them accepts it. -/
def ownWriting? (r : Registry) (again : Writing) (v : Value) (c : Constraint) :
    Option (Result Value) :=
  (r.serializers.find? (·.accepts v c)).map fun s => s.convert again v c

/-- Converts a value that is not the null marker, given what the caller's serializers make of it
and what becomes of it as a type that is not optional. -/
def writeOptional (own : Constraint → Option (Result Value)) (inner : Constraint → Result Value) :
    Constraint → Result Value
  | ⟨shape, name, arguments⟩ =>
    match own ⟨shape, name, arguments⟩ with
    | some r => r
    | none =>
      if shape = .optional then
        match arguments with
        | [] => (own .any).getD (inner .any)
        | element :: _ => writeOptional own inner element
      else inner ⟨shape, name, arguments⟩

mutual

/-- Converts a value, given what the caller's serializers make of values. -/
def writeWith (own : Value → Constraint → Option (Result Value)) : Value → Constraint → Result Value
  | .null, c => (own .null c).getD (.ok .null)
  | .list items, c =>
    writeOptional (own (.list items))
      (fun c => .list <$> writeItems own (Serializer.listElement c) items) c
  | .config ⟨entries, comments⟩, c =>
    writeOptional (own (.config ⟨entries, comments⟩))
      (fun c =>
        if Serializer.keepsTree c then .ok (.config ⟨entries, comments⟩)
        else do
          let entries ← writeEntries own (Serializer.mapElement c) entries
          return .config ⟨entries, comments⟩) c
  | v, c => writeOptional (own v) (fun _ => .ok v) c

/-- Converts the items of a list. -/
def writeItems (own : Value → Constraint → Option (Result Value)) (c : Constraint) :
    List Value → Result (List Value)
  | [] => .ok []
  | v :: rest => do
    let v ← writeWith own v c
    let rest ← writeItems own c rest
    return v :: rest

/-- Converts the values of a map. -/
def writeEntries (own : Value → Constraint → Option (Result Value)) (c : Constraint) :
    List (String × Value) → Result (List (String × Value))
  | [] => .ok []
  | (k, v) :: rest => do
    let v ← writeWith own v c
    let rest ← writeEntries own c rest
    return (k, v) :: rest

end

/-- Converts a value into what a tree stores, following `nesting` questions of the caller's
serializers inside one another. -/
def writeNested (r : Registry) : Nat → Writing
  | 0 => writeWith (r.ownWriting? fun _ _ => .error (.ofFault (.other tooDeep)))
  | nesting + 1 => writeWith (r.ownWriting? (r.writeNested nesting))
where
  /-- The message for a question too deep. -/
  tooDeep : String := "conversions are nested too deeply"

/-- Converts a value into what a tree stores. -/
def write (r : Registry) : Writing := r.writeNested r.nesting

/-! ## Reading -/

/-- What the caller's deserializers make of a value, when one of them accepts it. -/
def ownReading? (r : Registry) (again : Reading) (v : Option Value) (c : Constraint) :
    Option (Result Value) :=
  (r.deserializers.find? (·.accepts v c)).map fun d => d.convert again v c

/-- What becomes of no value. -/
def readNothing (own : Option Value → Constraint → Option (Result Value)) (c : Constraint) :
    Result Value :=
  (own none c).getD (.ok .null)

/-- A value that needs no conversion, if the target accepts it. -/
def readAccepted (v : Value) (c : Constraint) : Result Value :=
  if c.accepts v then .ok v else .error (.ofFault (.noDeserializer (some v) c.typeName))

mutual

/-- Converts a value that is there, given what the caller's deserializers make of values. -/
def readWith (own : Option Value → Constraint → Option (Result Value)) :
    Value → Constraint → Result Value
  | .list items, c =>
    writeOptional (own (some (.list items)))
      (fun c =>
        if Deserializer.takesItems c then .list <$> readItems own c.elementOrAny items
        else readAccepted (.list items) c) c
  | .config ⟨entries, comments⟩, c =>
    writeOptional (own (some (.config ⟨entries, comments⟩)))
      (fun c =>
        if Deserializer.takesTree c then
          if Serializer.keepsTree c then .ok (.config ⟨entries, comments⟩)
          else do
            let entries ← readEntries own c.elementOrAny entries
            return .config ⟨entries, comments⟩
        else readAccepted (.config ⟨entries, comments⟩) c) c
  | v, c =>
    writeOptional (own (some v))
      (fun c =>
        if Deserializer.number.accepts (some v) c then Deserializer.convertNumber v c
        else if Deserializer.dateTime.accepts (some v) c then Deserializer.convertDateTime v c
        else readAccepted v c) c

/-- Converts the items of a list; the null marker counts as no value. -/
def readItems (own : Option Value → Constraint → Option (Result Value)) (c : Constraint) :
    List Value → Result (List Value)
  | [] => .ok []
  | v :: rest => do
    let v ← if v.isNull then readNothing own c else readWith own v c
    let rest ← readItems own c rest
    return v :: rest

/-- Converts the values of a map; the null marker counts as no value. -/
def readEntries (own : Option Value → Constraint → Option (Result Value)) (c : Constraint) :
    List (String × Value) → Result (List (String × Value))
  | [] => .ok []
  | (k, v) :: rest => do
    let v ← if v.isNull then readNothing own c else readWith own v c
    let rest ← readEntries own c rest
    return (k, v) :: rest

end

/-- Converts a value, or its absence, given what the caller's deserializers make of values. -/
def readOptionWith (own : Option Value → Constraint → Option (Result Value)) : Reading
  | none, c => readNothing own c
  | some v, c => readWith own v c

/-- Converts what a tree stores into the native form of a type, following `nesting` questions of
the caller's deserializers inside one another. -/
def readNested (r : Registry) : Nat → Reading
  | 0 => readOptionWith (r.ownReading? fun _ _ => .error (.ofFault (.other writeNested.tooDeep)))
  | nesting + 1 => readOptionWith (r.ownReading? (r.readNested nesting))

/-- Converts what a tree stores into the native form of a type. -/
def read (r : Registry) : Reading := r.readNested r.nesting

end Registry

end ConfigBinding
