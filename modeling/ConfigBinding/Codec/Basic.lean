import ConfigBinding.Object.Datum
import ConfigBinding.Options

/-!
# Codecs

A codec is what a declared type contributes to a run: the constraint that converters are told, and
the way between data of the type and their native form, the value that converters work on. Writing
makes the native form and then converts it; reading converts first, and takes the native form only
if the type accepts it.
-/

namespace ConfigBinding

/-- The way of a type's data into values and back. -/
structure Codec where
  /-- The name that identifies the type: rules for members of a type are found by it, so codecs of
  different types are to have different names. -/
  name : String
  constraint : Constraint
  toNative : Options → Datum → Result Value
  fromNative : Options → Value → Result Datum

namespace Codec

/-- What a codec answers for data of another type. -/
def stray {α : Type} : Result α := .error (.ofFault (.other "data of another type"))

/-- Converts a datum into what a tree stores. -/
def write (c : Codec) (o : Options) (d : Datum) : Result Value := do
  let native ← c.toNative o d
  o.registry.write native c.constraint

/-- Converts what a tree stores into a datum. No value stands for the null marker. -/
def read (c : Codec) (o : Options) (v : Option Value) : Result Datum := do
  let native ← o.registry.read v c.constraint
  if c.constraint.accepts native then c.fromNative o native
  else .error (.ofFault (.rejected native c.constraint.typeName))

/-- Converts a value on its own into a datum. Here the null marker is no value. -/
def readValue (c : Codec) (o : Options) (v : Value) : Result Datum :=
  c.read o (if v.isNull then none else some v)

end Codec

end ConfigBinding
