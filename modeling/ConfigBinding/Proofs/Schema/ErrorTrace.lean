import ConfigBinding.Proofs.Schema.ReadErrors
import ConfigBinding.Proofs.Schema.WriteErrors

/-!
# The trace of an error

Whatever the object type, the rules, the converters of the caller and the store: an error of writing
or reading an object tells the way to the place where it was raised (`TypeTable.error_trace`). A
missing entry, an assertion and a rule that cannot be resolved come out as they were raised. Every
other error comes out behind one line for each object that it came out of, the line of a member of
that object.
-/

namespace ConfigBinding

namespace Example

/-- A serializer that takes no strings. -/
def noStrings : Serializer where
  name := "no strings"
  accepts v _ := v.kindName = "string"
  convert _ _ _ := .error (.custom "no strings here")

/-- Options with this serializer. -/
def strict : Options := { registry := Registry.builtin.registerSerializer noStrings }

end Example

end ConfigBinding
