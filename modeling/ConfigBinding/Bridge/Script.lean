import ConfigBinding.Error
import ConfigBinding.Numeric.IntType

/-!
# Values from scripts of calls

Data of any type describes itself by a sequence of calls: "an integer of 8 bits", "a list begins",
"here is a key". A `Script` is such a description as data, and `Script.toValue` makes a value of
it. Integers of every width come out alike, as do all lists; what is optional or has one component
only leaves no trace; a variant with content becomes a map with the variant's name as only key.

Maps are described key by key and value by value, and a script may give them in any order:
`MapBuilder` remembers the last key given and pairs the next value with it.
-/

namespace ConfigBinding.Bridge

open Numeric

mutual

/-- A description of data by calls. -/
inductive Script where
  | unit
  | none
  | bool (b : Bool)
  | integer (type : IntType) (n : Int)
  | single (x : Binary32)
  | double (x : Binary64)
  | char (c : Char)
  | str (s : String)
  | bytes (bs : List UInt8)
  | some (content : Script)
  | newtypeStruct (content : Script)
  | unitStruct (name : String)
  | unitVariant (name : String)
  | newtypeVariant (name : String) (content : Script)
  | seq (items : List Script)
  | tuple (items : List Script)
  | tupleStruct (items : List Script)
  | tupleVariant (name : String) (items : List Script)
  | map (steps : List MapStep)
  | struct (fields : List (String × Script))
  | structVariant (name : String) (fields : List (String × Script))
  /-- A configuration value, which describes itself. -/
  | value (v : Value)
  /-- The description fails. -/
  | fail (message : String)

/-- A step of the description of a map. -/
inductive MapStep where
  | entry (key value : Script)
  | key (key : Script)
  | value (value : Script)

end

/-- A map under construction: the entries so far, and a key that waits for its value. -/
structure MapBuilder where
  entries : List (String × Value)
  pending : Option String

namespace MapBuilder

/-- The map before the first step. -/
def start : MapBuilder := ⟨[], none⟩

/-- The text of a value as a key; only strings, numbers and truth values can be keys. -/
def keyText : Value → Result String
  | .string s => .ok s
  | .number n => .ok n.display
  | .bool b => .ok (toString b)
  | v => .error (.custom ("map keys must be strings, found " ++ v.kindName))

/-- Takes a key; it replaces one that waits. -/
def giveKey (m : MapBuilder) (key : Value) : Result MapBuilder := do
  let text ← keyText key
  return { m with pending := some text }

/-- The key that the next value belongs to. -/
def takeKey (m : MapBuilder) : Result String :=
  match m.pending with
  | some key => .ok key
  | none => .error (.custom "serialize_value called without serialize_key")

/-- Stores a value under the key that was waiting. -/
def giveValue (m : MapBuilder) (key : String) (value : Value) : MapBuilder :=
  ⟨Keyed.insert m.entries key value, none⟩

/-- The map. A key that still waits is dropped. -/
def finish (m : MapBuilder) : Value := .config ⟨m.entries, []⟩

end MapBuilder

/-- A variant with content: a map with one entry. -/
def tagged (variant : String) (content : Value) : Value := .config ⟨[(variant, content)], []⟩

mutual

/-- What a configuration value makes of itself: it describes date-times and big integers by their
texts, and maps by their entries without comments. -/
def ownValue : Value → Result Value
  | .null => .ok .null
  | .bool b => .ok (.bool b)
  | .number n => .ok (.number n)
  | .string s => .ok (.string s)
  | .list items => .list <$> ownItems items
  | .config ⟨entries, _⟩ => MapBuilder.finish <$> ownEntries MapBuilder.start entries
  | .dateTime t => .ok (.string t.toRfc3339)
  | .bigInt n => .ok (.string (toString n))

/-- The items of a list, each by itself. -/
def ownItems : List Value → Result (List Value)
  | [] => .ok []
  | v :: rest => do
    let v ← ownValue v
    let rest ← ownItems rest
    return v :: rest

/-- The entries of a map, key by key and value by value. -/
def ownEntries (m : MapBuilder) : List (String × Value) → Result MapBuilder
  | [] => .ok m
  | (k, v) :: rest => do
    let m ← m.giveKey (.string k)
    let key ← m.takeKey
    let v ← ownValue v
    ownEntries (m.giveValue key v) rest

end

mutual

/-- The value that a script describes. -/
def Script.toValue : Script → Result Value
  | .unit | .none | .unitStruct _ => .ok .null
  | .bool b => .ok (.bool b)
  | .integer _ n => .ok (.ofInt n)
  | .single x => .ok (.number (.float (x.convert .double)))
  | .double x => .ok (.number (.float x))
  | .char c => .ok (.string (String.ofList [c]))
  | .str s => .ok (.string s)
  | .bytes bs => .ok (.list (bs.map fun b => .ofInt b.toNat))
  | .some content => content.toValue
  | .newtypeStruct content => content.toValue
  | .unitVariant name => .ok (.string name)
  | .newtypeVariant name content => tagged name <$> content.toValue
  | .seq items => .list <$> itemValues items
  | .tuple items => .list <$> itemValues items
  | .tupleStruct items => .list <$> itemValues items
  | .tupleVariant name items => (tagged name ∘ .list) <$> itemValues items
  | .map steps => MapBuilder.finish <$> runSteps MapBuilder.start steps
  | .struct fields => (fun entries => .config ⟨entries, []⟩) <$> fieldValues [] fields
  | .structVariant name fields =>
    (fun entries => tagged name (.config ⟨entries, []⟩)) <$> fieldValues [] fields
  | .value v => ownValue v
  | .fail message => .error (.custom message)

/-- The values of the items of a list. -/
def itemValues : List Script → Result (List Value)
  | [] => .ok []
  | s :: rest => do
    let v ← s.toValue
    let rest ← itemValues rest
    return v :: rest

/-- The entries that the fields of a structure describe, behind the given ones. -/
def fieldValues (entries : List (String × Value)) :
    List (String × Script) → Result (List (String × Value))
  | [] => .ok entries
  | (name, s) :: rest => do
    let v ← s.toValue
    fieldValues (Keyed.insert entries name v) rest

/-- Runs the description of a map. -/
def runSteps (m : MapBuilder) : List MapStep → Result MapBuilder
  | [] => .ok m
  | step :: rest => do
    let m ← step.run m
    runSteps m rest

/-- Runs one step of the description of a map. A value needs its key before it is looked at. -/
def MapStep.run (m : MapBuilder) : MapStep → Result MapBuilder
  | .entry key value => do
    let k ← key.toValue
    let m ← m.giveKey k
    let waiting ← m.takeKey
    let v ← value.toValue
    return m.giveValue waiting v
  | .key key => do
    let k ← key.toValue
    m.giveKey k
  | .value value => do
    let waiting ← m.takeKey
    let v ← value.toValue
    return m.giveValue waiting v

end

end ConfigBinding.Bridge
