import ConfigBinding.Value.Basic

/-!
# Constraints

A constraint is what a converter is told about the type of a member: a shape, a name for messages,
and constraints for the type's arguments, of which the first one is that of the elements of an
optional, a list or a map.
-/

namespace ConfigBinding

/-- The shapes of types. -/
inductive Shape where
  | any
  | bool
  | integer
  | float
  | char
  | string
  | list
  | map
  | optional
  | object
  | config
  | dateTime
  | bigInt
  deriving DecidableEq, Repr

/-- The name of a shape. -/
def Shape.name : Shape → String
  | .any => "Any"
  | .bool => "Bool"
  | .integer => "Integer"
  | .float => "Float"
  | .char => "Char"
  | .string => "String"
  | .list => "List"
  | .map => "Map"
  | .optional => "Optional"
  | .object => "Object"
  | .config => "Config"
  | .dateTime => "DateTime"
  | .bigInt => "BigInt"

/-- What is known of the type that a value is declared with. -/
inductive Constraint where
  | mk (shape : Shape) (typeName : String) (arguments : List Constraint)

namespace Constraint

/-- The shape of the type. -/
def shape : Constraint → Shape
  | ⟨shape, _, _⟩ => shape

/-- The name of the type. -/
def typeName : Constraint → String
  | ⟨_, typeName, _⟩ => typeName

/-- The constraints of the type's arguments. -/
def arguments : Constraint → List Constraint
  | ⟨_, _, arguments⟩ => arguments

/-- A type without arguments. -/
def plain (shape : Shape) (typeName : String) : Constraint := ⟨shape, typeName, []⟩

/-- The type that every value belongs to. -/
def any : Constraint := plain .any "any"

instance : Inhabited Constraint := ⟨any⟩

/-- The constraint of the elements, if the type has one. -/
def element? (c : Constraint) : Option Constraint := c.arguments.head?

/-- The constraint of the elements; without one they may be anything. -/
def elementOrAny (c : Constraint) : Constraint := c.element?.getD any

/-- Whether the null marker belongs to the type by itself. -/
def isNullable (c : Constraint) : Bool := c.shape = .any || c.shape = .optional

/-- Whether a value belongs to the type. The elements of lists and maps count, to any depth;
objects are checked only by being maps. -/
def accepts : Constraint → Value → Bool
  | ⟨.any, _, _⟩, _ => true
  | ⟨.optional, _, []⟩, _ => true
  | ⟨.optional, _, element :: _⟩, v => v.isNull || element.accepts v
  | ⟨.bool, _, _⟩, .bool _ => true
  | ⟨.integer, _, _⟩, .number (.integer _) => true
  | ⟨.float, _, _⟩, .number _ => true
  | ⟨.char, _, _⟩, .string s => s.length = 1
  | ⟨.string, _, _⟩, .string _ => true
  | ⟨.list, _, []⟩, .list _ => true
  | ⟨.list, _, element :: _⟩, .list items => items.all fun v => element.accepts v
  | ⟨.map, _, []⟩, .config _ => true
  | ⟨.map, _, element :: _⟩, .config tree => tree.entries.all fun p => element.accepts p.2
  | ⟨.object, _, _⟩, .config _ => true
  | ⟨.config, _, _⟩, .config _ => true
  | ⟨.dateTime, _, _⟩, .dateTime _ => true
  | ⟨.bigInt, _, _⟩, .bigInt _ => true
  | ⟨.bigInt, _, _⟩, .number (.integer _) => true
  | _, _ => false

/-! ## Accepted values by shape -/

section Accepts

variable {name : String} {arguments : List Constraint} {element : Constraint} {v : Value}

theorem accepts_optional :
    accepts ⟨.optional, name, [element]⟩ v = true ↔ v.isNull = true ∨ element.accepts v = true :=
  Bool.or_eq_true_iff

theorem accepts_bool : accepts ⟨.bool, name, arguments⟩ v = true ↔ ∃ b, v = .bool b := by
  refine ⟨fun h => ?_, fun ⟨b, hb⟩ => hb ▸ rfl⟩
  cases v with
  | bool b => exact ⟨b, rfl⟩
  | _ => cases h

theorem accepts_integer :
    accepts ⟨.integer, name, arguments⟩ v = true ↔ ∃ n, v = .number (.integer n) := by
  refine ⟨fun h => ?_, fun ⟨n, hn⟩ => hn ▸ rfl⟩
  cases v with
  | number n =>
    cases n with
    | integer n => exact ⟨n, rfl⟩
    | float x => cases h
  | _ => cases h

theorem accepts_float : accepts ⟨.float, name, arguments⟩ v = true ↔ ∃ n, v = .number n := by
  refine ⟨fun h => ?_, fun ⟨n, hn⟩ => hn ▸ rfl⟩
  cases v with
  | number n => exact ⟨n, rfl⟩
  | _ => cases h

theorem accepts_char :
    accepts ⟨.char, name, arguments⟩ v = true ↔ ∃ s, v = .string s ∧ s.length = 1 := by
  refine ⟨fun h => ?_, fun ⟨s, hs, hlength⟩ => hs ▸ decide_eq_true hlength⟩
  cases v with
  | string s => exact ⟨s, rfl, of_decide_eq_true h⟩
  | _ => cases h

theorem accepts_string : accepts ⟨.string, name, arguments⟩ v = true ↔ ∃ s, v = .string s := by
  refine ⟨fun h => ?_, fun ⟨s, hs⟩ => hs ▸ rfl⟩
  cases v with
  | string s => exact ⟨s, rfl⟩
  | _ => cases h

theorem accepts_list : accepts ⟨.list, name, [element]⟩ v = true
    ↔ ∃ items, v = .list items ∧ ∀ item ∈ items, element.accepts item = true := by
  refine ⟨fun h => ?_, fun ⟨items, hitems, h⟩ => hitems ▸ List.all_eq_true.mpr h⟩
  cases v with
  | list items => exact ⟨items, rfl, List.all_eq_true.mp h⟩
  | _ => cases h

theorem accepts_map : accepts ⟨.map, name, [element]⟩ v = true
    ↔ ∃ t, v = .config t ∧ ∀ p ∈ t.entries, element.accepts p.2 = true := by
  refine ⟨fun h => ?_, fun ⟨t, ht, h⟩ => ht ▸ List.all_eq_true.mpr h⟩
  cases v with
  | config t => exact ⟨t, rfl, List.all_eq_true.mp h⟩
  | _ => cases h

theorem accepts_config : accepts ⟨.config, name, arguments⟩ v = true ↔ ∃ t, v = .config t := by
  refine ⟨fun h => ?_, fun ⟨t, ht⟩ => ht ▸ rfl⟩
  cases v with
  | config t => exact ⟨t, rfl⟩
  | _ => cases h

theorem accepts_dateTime :
    accepts ⟨.dateTime, name, arguments⟩ v = true ↔ ∃ t, v = .dateTime t := by
  refine ⟨fun h => ?_, fun ⟨t, ht⟩ => ht ▸ rfl⟩
  cases v with
  | dateTime t => exact ⟨t, rfl⟩
  | _ => cases h

theorem accepts_bigInt : accepts ⟨.bigInt, name, arguments⟩ v = true
    ↔ (∃ n, v = .bigInt n) ∨ ∃ n, v = .number (.integer n) := by
  constructor
  · intro h
    cases v with
    | bigInt n => exact .inl ⟨n, rfl⟩
    | number n =>
      cases n with
      | integer n => exact .inr ⟨n, rfl⟩
      | float x => cases h
    | _ => cases h
  · rintro (⟨n, rfl⟩ | ⟨n, rfl⟩) <;> rfl

end Accepts

mutual

/-- Equality of constraints. -/
def same : Constraint → Constraint → Bool
  | ⟨shape, name, arguments⟩, ⟨shape', name', arguments'⟩ =>
    shape = shape' && name = name' && sameAll arguments arguments'

/-- Equality position by position. -/
def sameAll : List Constraint → List Constraint → Bool
  | [], [] => true
  | c :: cs, d :: ds => same c d && sameAll cs ds
  | _, _ => false

end

end Constraint

end ConfigBinding
