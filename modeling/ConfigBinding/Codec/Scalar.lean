import ConfigBinding.Codec.Basic
import ConfigBinding.Numeric.IntType
import ConfigBinding.Value.Coercion

/-!
# Codecs of plain data

The codecs of types without parts. The native form of an integer is a 64-bit integer where that has
it and a big integer otherwise, so types with numbers beyond 64 bits ask converters for big
integers. The range of a type is checked here and not by converters.
-/

namespace ConfigBinding.Codec

open Numeric

/-- What is wrong with a value that has no form in a type. -/
def mismatch {α : Type} (v : Value) (typeName : String) : Result α :=
  .error (.ofFault (.mismatch v typeName))

/-- Truth values. -/
def bool : Codec where
  name := "bool"
  constraint := .plain .bool "bool"
  toNative _
    | .bool b => .ok (.bool b)
    | _ => stray
  fromNative _ v := .bool <$> v.toBool

/-- An integer, if the type has it. -/
def checkRange (type : IntType) (n : Int) : Result Datum :=
  if type.contains n then .ok (.integer n) else .error (.ofFault (.outOfRange n type.name))

/-- The type that the numbers of a wide type are checked against. -/
def wideRange (type : IntType) : IntType := if type = .usize then .u64 else type

/-- The number of a wide type that a native value is. -/
def readWide (type : IntType) : Value → Result Datum
  | .number (.integer i) => checkRange type i.toInt
  | .bigInt n => checkRange type n
  | v => mismatch v type.name

/-- Integers of a fixed width. -/
def integer (type : IntType) : Codec where
  name := type.name
  constraint := .plain (if type.isWide then .bigInt else .integer) type.name
  toNative _
    | .integer n => .ok (.ofInt n)
    | _ => stray
  fromNative _ v :=
    if type.isWide then readWide (wideRange type) v
    else do
      let n ← v.toInt64
      checkRange type n.toInt

/-- Floats of single precision; their native form is the same number in double precision. -/
def single : Codec where
  name := "f32"
  constraint := .plain .float "f32"
  toNative _
    | .single x => .ok (.number (.float (x.convert .double)))
    | _ => stray
  fromNative _ v := (fun x => .single (x.convert .single)) <$> v.toFloat

/-- Floats of double precision. -/
def double : Codec where
  name := "f64"
  constraint := .plain .float "f64"
  toNative _
    | .double x => .ok (.number (.float x))
    | _ => stray
  fromNative _ v := .double <$> v.toFloat

/-- Characters; their native form is a string of one character. -/
def char : Codec where
  name := "char"
  constraint := .plain .char "char"
  toNative _
    | .char c => .ok (.string (String.ofList [c]))
    | _ => stray
  fromNative _ v :=
    match v with
    | .string s =>
      match s.toList with
      | [c] => .ok (.char c)
      | _ => mismatch v "char"
    | v => mismatch v "char"

/-- Strings. -/
def string : Codec where
  name := "String"
  constraint := .plain .string "String"
  toNative _
    | .string s => .ok (.string s)
    | _ => stray
  fromNative _ v := .string <$> v.toText

/-- Date-times. -/
def dateTime : Codec where
  name := "DateTime<Utc>"
  constraint := .plain .dateTime "DateTime<Utc>"
  toNative _
    | .dateTime t => .ok (.dateTime t)
    | _ => stray
  fromNative _
    | .dateTime t => .ok (.dateTime t)
    | v => mismatch v "DateTime<Utc>"

/-- Integers of any size. -/
def bigInt : Codec where
  name := "BigInt"
  constraint := .plain .bigInt "BigInt"
  toNative _
    | .bigInt n => .ok (.bigInt n)
    | _ => stray
  fromNative _
    | .bigInt n => .ok (.bigInt n)
    | .number (.integer i) => .ok (.bigInt i.toInt)
    | v => mismatch v "BigInt"

/-- Configuration values, which are their own native form. -/
def value : Codec where
  name := "ConfigValue"
  constraint := .any
  toNative _
    | .value v => .ok v
    | _ => stray
  fromNative _ v := .ok (.value v)

/-- Maps of a configuration. -/
def tree : Codec where
  name := "ConfigMap"
  constraint := .plain .config "ConfigMap"
  toNative _
    | .tree t => .ok (.config t)
    | _ => stray
  fromNative _
    | .config t => .ok (.tree t)
    | v => mismatch v "ConfigMap"

/-- Data that describes itself. -/
def described (type : Bridge.DataType) : Codec where
  name := "Serde<" ++ type.typeName ++ ">"
  constraint := .plain .any type.typeName
  toNative _
    | .described _ data => (type.encode data).toValue
    | _ => stray
  fromNative _ v := .described type <$> type.decode v

end ConfigBinding.Codec
