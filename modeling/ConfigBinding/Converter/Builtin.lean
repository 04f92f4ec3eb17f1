import ConfigBinding.Converter.Basic

/-!
# The built-in converters

Every registry ends with these, in the order of `Serializer.builtin` and `Deserializer.builtin`.
Each is total: asked for a value that it does not accept it hands the value back, or the null
marker when there is none.
-/

namespace ConfigBinding

open Numeric

attribute [local instance (2000)] instPowNat

namespace Serializer

/-- The null marker stays. -/
def null : Serializer where
  name := "null"
  accepts v _ := v.isNull
  convert _ _ _ := .ok .null

/-- A value declared as optional is converted as what is optional. -/
def optional : Serializer where
  name := "optional"
  accepts _ c := c.shape = .optional
  convert again v c := again v c.elementOrAny

/-- The constraint of the items of a list declared as `c`. -/
def listElement (c : Constraint) : Constraint :=
  if c.shape = .list then c.elementOrAny else .any

/-- The constraint of the values of a map declared as `c`. -/
def mapElement (c : Constraint) : Constraint :=
  if c.shape = .map then c.elementOrAny else .any

/-- Whether a map declared as `c` is kept as it is: its own schema has written it. -/
def keepsTree (c : Constraint) : Bool := c.shape = .object || c.shape = .config

/-- Converts the values of a map, and keeps keys, order and comments. -/
def convertEntries (again : Value → Result Value) (t : Tree) : Result Value := do
  let entries ← t.entries.mapM fun p => return (p.1, ← again p.2)
  return .config ⟨entries, t.comments⟩

/-- A list is converted item by item. -/
def list : Serializer where
  name := "list"
  accepts v _ := v.isList
  convert again v c :=
    match v with
    | .list items => .list <$> items.mapM (again · (listElement c))
    | v => .ok v

/-- A map is converted value by value, unless it is an object. -/
def tree : Serializer where
  name := "tree"
  accepts v _ := v.isConfig
  convert again v c :=
    match v with
    | .config t =>
      if keepsTree c then .ok v else convertEntries (again · (mapElement c)) t
    | v => .ok v

/-- Every other value stays. -/
def scalar : Serializer where
  name := "scalar"
  accepts v _ := !v.isNull && !v.isList && !v.isConfig
  convert _ v _ := .ok v

/-- The built-in serializers, in the order in which they are asked. -/
def builtin : List Serializer := [null, optional, list, tree, scalar]

end Serializer

namespace Deserializer

/-- An item of a list or map: the null marker counts as no value. -/
def present : Value → Option Value
  | .null => none
  | v => some v

/-- No value becomes the null marker. -/
def null : Deserializer where
  name := "null"
  accepts v _ := v.isNone
  convert _ _ _ := .ok .null

/-- A value for an optional target is converted into what is optional. -/
def optional : Deserializer where
  name := "optional"
  accepts _ c := c.shape = .optional
  convert again v c := again v c.elementOrAny

/-- Whether a shape is one of the three that numbers are converted into. -/
def isNumeric (shape : Shape) : Bool :=
  shape = .integer || shape = .float || shape = .bigInt

/-- The number of a value for a numeric target. A float becomes an integer only if it is one in
value and has 64 bits, and so does a big integer; into a float every number is rounded. -/
def convertNumber (v : Value) (c : Constraint) : Result Value :=
  match c.shape, v with
  | .integer, .number n =>
    match n.toInt64? with
    | some i => .ok (.number (.integer i))
    | none => .error (.ofFault (.number n.display c.typeName))
  | .integer, .bigInt n =>
    if -2 ^ (63 : Nat) ≤ n ∧ n < 2 ^ (63 : Nat) then .ok (.number (.integer (Int64.ofInt n)))
    else .error (.ofFault (.number (toString n) c.typeName))
  | .float, .number n => .ok (.number (.float n.toFloat))
  | .float, .bigInt n => .ok (.number (.float (Binary.ofInt .double n)))
  | .bigInt, .number n =>
    match n.toInt64? with
    | some i => .ok (.bigInt i.toInt)
    | none => .error (.ofFault (.number n.display c.typeName))
  | _, v => .ok v

/-- Numbers are converted into the kind of the target. -/
def number : Deserializer where
  name := "number"
  accepts v c :=
    isNumeric c.shape &&
      match v with
      | some (.number _) | some (.bigInt _) => true
      | _ => false
  convert _ v c :=
    match v with
    | some v => convertNumber v c
    | none => .ok .null

/-- The date-time that a value is or names. -/
def convertDateTime (v : Value) (c : Constraint) : Result Value :=
  match v with
  | .string s =>
    match Time.Instant.parseRfc3339 s with
    | .ok t => .ok (.dateTime t)
    | .error reason => .error (.ofFault (.dateTime s c.typeName reason))
  | v => .ok v

/-- RFC 3339 texts become date-times. -/
def dateTime : Deserializer where
  name := "date-time"
  accepts v c :=
    c.shape = .dateTime &&
      match v with
      | some (.string _) | some (.dateTime _) => true
      | _ => false
  convert _ v c :=
    match v with
    | some v => convertDateTime v c
    | none => .ok .null

/-- Whether the items of a list are converted for a target. -/
def takesItems (c : Constraint) : Bool := c.shape = .list || c.shape = .any

/-- Whether a map is read for a target. -/
def takesTree (c : Constraint) : Bool :=
  c.shape = .map || c.shape = .object || c.shape = .config || c.shape = .any

/-- A list is converted item by item. -/
def list : Deserializer where
  name := "list"
  accepts v c :=
    takesItems c &&
      match v with
      | some (.list _) => true
      | _ => false
  convert again v c :=
    match v with
    | some (.list items) => .list <$> items.mapM fun item => again (present item) c.elementOrAny
    | some v => .ok v
    | none => .ok .null

/-- A map is converted value by value, unless an object or a map as such is wanted. -/
def tree : Deserializer where
  name := "tree"
  accepts v c :=
    takesTree c &&
      match v with
      | some (.config _) => true
      | _ => false
  convert again v c :=
    match v with
    | some (.config t) =>
      if Serializer.keepsTree c then .ok (.config t)
      else Serializer.convertEntries (fun item => again (present item) c.elementOrAny) t
    | some v => .ok v
    | none => .ok .null

/-- A value that the target accepts as it is. -/
def passThrough : Deserializer where
  name := "pass-through"
  accepts v c :=
    match v with
    | some v => c.accepts v
    | none => false
  convert _ v _ := .ok (v.getD .null)

/-- The built-in deserializers, in the order in which they are asked. -/
def builtin : List Deserializer :=
  [null, optional, number, dateTime, list, tree, passThrough]

end Deserializer

end ConfigBinding
