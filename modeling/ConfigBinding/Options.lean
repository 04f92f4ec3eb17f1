import ConfigBinding.Converter.Registry
import ConfigBinding.Naming

/-!
# Options

What the caller decides for a whole run: how keys are made from names, whether transient members
are left out, and which converters there are.
-/

namespace ConfigBinding

/-- The options of a run. -/
structure Options where
  naming : Naming.Strategy := .identity
  /-- Whether members marked as transient are left out. -/
  skipsTransient : Bool := true
  registry : Registry := .builtin

/-- The text of the options in inspection. A naming strategy may be any function, so it is not
shown, and the registry has a text of its own. -/
def Options.inspect (o : Options) : String :=
  inspectFields "SerdeOptions"
    [("naming_strategy", Text.Quoted.string ".."),
     ("apply_transient_modifier", toString o.skipsTransient)]

end ConfigBinding
