import ConfigBinding.Constraint
import ConfigBinding.Error

/-!
# Converters

A converter takes part in turning native values into the values that a tree stores, or back. It
says which values it accepts, and may call for the conversion of further values, which the
registry then looks up anew; that is the first argument of `convert`.
-/

namespace ConfigBinding

/-- A conversion into what a tree stores: a native value and its declared type. -/
abbrev Writing := Value → Constraint → Result Value

/-- A conversion out of what a tree stores, into the native form of a type. No value stands for
the null marker. -/
abbrev Reading := Option Value → Constraint → Result Value

/-- A converter from native values to stored ones. -/
structure Serializer where
  name : String
  accepts : Value → Constraint → Bool
  convert : Writing → Writing

/-- A converter from stored values to native ones. -/
structure Deserializer where
  name : String
  accepts : Option Value → Constraint → Bool
  convert : Reading → Reading

end ConfigBinding
