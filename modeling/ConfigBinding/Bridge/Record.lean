import ConfigBinding.Bridge.Incoming
import ConfigBinding.Bridge.Script

/-!
# Recording what a value hands over

A recording reader takes whatever arrives and writes it down. Read without a wish (`record`), a
value hands over plain data at every depth; `Recording.script` replays that as a script. Read with
a wish (`recordAs`), a value can also be asked for an optional, for the content of a one-component
type, or for a variant.
-/

namespace ConfigBinding.Bridge

open Numeric

/-- What a recording reader has written down. -/
inductive Recording where
  | unit
  | none
  | bool (b : Bool)
  | integer (type : IntType) (n : Int)
  | double (x : Binary64)
  | str (s : String)
  | some (content : Recording)
  | newtypeStruct (content : Recording)
  | seq (items : List Recording)
  | map (entries : List (String × Recording))
  | variant (name : String) (content : Recording)

/-- The record of a big integer. -/
def recordBig (n : Int) : Recording :=
  if IntType.u64.contains n then .integer .u64 n
  else if IntType.i128.contains n then .integer .i128 n
  else if IntType.u128.contains n then .integer .u128 n
  else .str (toString n)

mutual

/-- The record of a value read without a wish. -/
def record : Value → Recording
  | .null => .unit
  | .bool b => .bool b
  | .number (.integer n) => .integer .i64 n.toInt
  | .number (.float x) => .double x
  | .string s => .str s
  | .list items => .seq (recordItems items)
  | .config ⟨entries, _⟩ => .map (recordEntries entries)
  | .dateTime t => .str t.toRfc3339
  | .bigInt n => recordBig n

/-- The records of the items of a list. -/
def recordItems : List Value → List Recording
  | [] => []
  | v :: rest => record v :: recordItems rest

/-- The records of the entries of a map. -/
def recordEntries : List (String × Value) → List (String × Recording)
  | [] => []
  | (k, v) :: rest => (k, record v) :: recordEntries rest

end

mutual

/-- A record as a script. -/
def Recording.script : Recording → Script
  | .unit => .unit
  | .none => .none
  | .bool b => .bool b
  | .integer type n => .integer type n
  | .double x => .double x
  | .str s => .str s
  | .some content => .some content.script
  | .newtypeStruct content => .newtypeStruct content.script
  | .seq items => .seq (recordingScripts items)
  | .map entries => .map (recordingSteps entries)
  | .variant name content => .newtypeVariant name content.script

/-- Records of items as scripts. -/
def recordingScripts : List Recording → List Script
  | [] => []
  | r :: rest => r.script :: recordingScripts rest

/-- Records of entries as steps of the description of a map. -/
def recordingSteps : List (String × Recording) → List MapStep
  | [] => []
  | (k, r) :: rest => .entry (.str k) r.script :: recordingSteps rest

end

/-- The script that a value hands over, read without a wish. -/
def describe (v : Value) : Script := (record v).script

/-- What a reader wishes for. A wish for the inside of something else than what arrives is not
followed. -/
inductive Wish where
  | any
  | option (content : Wish)
  | newtype (content : Wish)
  | seqOf (item : Wish)
  | mapOf (value : Wish)
  /-- Asks a map for a value before any key. -/
  | valueFirst
  | unitVariant
  | newtypeVariant (content : Wish)
  | tupleVariant
  | structVariant

/-- The variant that a value names, with its content if it has one. -/
def variantOf : Value → Result (String × Option Value)
  | .string name => .ok (name, none)
  | .config ⟨[(name, content)], _⟩ => .ok (name, some content)
  | v => refuse (.notVariant v)

/-- The record of a value read with a wish. -/
def recordAs : Wish → Value → Result Recording
  | .any, v => .ok (record v)
  | .option content, v => if v.isNull then .ok .none else .some <$> recordAs content v
  | .newtype content, v => .newtypeStruct <$> recordAs content v
  | .seqOf item, v =>
    match v with
    | .list items => .seq <$> items.mapM (recordAs item)
    | v => .ok (record v)
  | .mapOf value, v =>
    match v with
    | .config t => .map <$> t.entries.mapM fun p => return (p.1, ← recordAs value p.2)
    | v => .ok (record v)
  | .valueFirst, v => if v.isConfig then refuse .valueBeforeKey else .ok (record v)
  | .unitVariant, v => do
    match ← variantOf v with
    | (name, none) | (name, some .null) => return .variant name .unit
    | _ => refuse (.wrongContent "a unit variant")
  | .newtypeVariant content, v => do
    match ← variantOf v with
    | (name, some inner) => .variant name <$> recordAs content inner
    | (_, none) => refuse (.wrongContent "a newtype variant")
  | .tupleVariant, v => do
    match ← variantOf v with
    | (name, some (.list items)) => return .variant name (record (.list items))
    | _ => refuse (.wrongContent "a tuple variant")
  | .structVariant, v => do
    match ← variantOf v with
    | (name, some (.config t)) => return .variant name (record (.config t))
    | _ => refuse (.wrongContent "a struct variant")

end ConfigBinding.Bridge
