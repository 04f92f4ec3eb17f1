import ConfigBinding.Time.Rfc3339
import ConfigBinding.Value.Equality
import ConfigBinding.Value.Text

/-!
# Errors

Every way in which binding an object to a configuration can fail. An error says what went wrong as
data: the member, the type that declares it, the value in question; `Error.message` is the one
place where this becomes text.

Three kinds of error are final: a missing entry, a failed assertion and a rule that cannot be
resolved already name the member that they are about, so nothing is added to them on their way
out. Every other error counts as a failed conversion, and gains a line for each member that it
passes through.
-/

namespace ConfigBinding

/-- Why a conversion failed. -/
inductive Fault where
  /-- A value is of another kind than the one expected. -/
  | expected (kind : String) (value : Value)
  /-- A number is not a 64-bit integer. -/
  | notInt64 (number : Number)
  /-- An integer lies outside the range of a type. -/
  | outOfRange (n : Int) (typeName : String)
  /-- A value has no form in a type. -/
  | mismatch (value : Value) (typeName : String)
  /-- No serializer accepts a value declared with a type. -/
  | noSerializer (value : Value) (typeName : String)
  /-- No deserializer turns a value, or its absence, into a type. -/
  | noDeserializer (value : Option Value) (typeName : String)
  /-- A number, given by its text, has no form in a type. -/
  | number (text : String) (typeName : String)
  /-- A text is no date-time. -/
  | dateTime (text : String) (typeName : String) (reason : Time.ParseError)
  /-- A conversion gave a value that the target does not accept. -/
  | rejected (value : Value) (typeName : String)
  /-- An object was to be read from something other than a map. -/
  | notTree (typeName : String) (value : Value)
  /-- A member could not be written; `value` is its inspection text. -/
  | writeMember (declaringType member value : String)
  /-- A member could not be read; `entry` is the text of its entry. -/
  | readMember (declaringType member entry : String)
  /-- A reason in words, from a caller's converter. -/
  | other (message : String)
  deriving DecidableEq

/-- The text of a fault. -/
def Fault.message : Fault → String
  | .expected kind value => "expected " ++ kind ++ ", found " ++ value.display
  | .notInt64 n => "cannot convert " ++ n.display ++ " to i64"
  | .outOfRange n typeName => toString n ++ " is out of range for " ++ typeName
  | .mismatch value typeName =>
    "cannot convert " ++ value.kindName ++ " `" ++ value.display ++ "` into " ++ typeName
  | .noSerializer value typeName =>
    "no serializer found for value `" ++ value.display ++ "` of type " ++ typeName
  | .noDeserializer value typeName =>
    "no deserializer found for value `" ++ (value.map Value.display).getD "null" ++ "` into "
      ++ typeName
  | .number text typeName => "cannot convert number `" ++ text ++ "` into " ++ typeName
  | .dateTime text typeName reason =>
    "cannot parse `" ++ text ++ "` into " ++ typeName ++ ": " ++ reason.message
  | .rejected value typeName =>
    "converted value `" ++ value.display ++ "` (" ++ value.kindName ++ ") is not a valid "
      ++ typeName
  | .notTree typeName value =>
    "expected a config tree for " ++ typeName ++ ", found " ++ value.kindName
  | .writeMember declaringType member value =>
    "cannot serialize field `" ++ declaringType ++ "::" ++ member ++ "` with value " ++ value
  | .readMember declaringType member entry =>
    "cannot deserialize value `" ++ entry ++ "` into field `" ++ declaringType ++ "::" ++ member
      ++ "`"
  | .other message => message

/-- What a rule of a member asks for. -/
inductive RuleRole where
  | skipPredicate
  | assertion
  | defaultProvider
  deriving DecidableEq, Repr

/-- What a message calls the role. -/
def RuleRole.name : RuleRole → String
  | .skipPredicate => "skip predicate"
  | .assertion => "assertion"
  | .defaultProvider => "default value provider"

/-- Why a rule cannot be resolved. -/
inductive RuleFault where
  /-- The rule has neither a name nor a closure. -/
  | unset (role : RuleRole)
  /-- The name is known, but not for this role and type; `searched` names the tables. -/
  | notApplicable (name : String) (role : RuleRole) (searched : List String)
  /-- The name is not known in the tables searched. -/
  | unknown (name : String) (role : RuleRole) (searched : List String)
  /-- A reason in words. -/
  | other (message : String)
  deriving DecidableEq, Repr

/-- The text of a rule's fault. -/
def RuleFault.message : RuleFault → String
  | .unset role => "custom " ++ role.name ++ " without a name or closure"
  | .notApplicable name role searched =>
    "`" ++ name ++ "` in " ++ " or ".intercalate searched ++ " is not a " ++ role.name
      ++ " applicable to this field"
  | .unknown name role searched =>
    "no " ++ role.name ++ " named `" ++ name ++ "` in " ++ " or ".intercalate searched
  | .other message => message

/-- Why a path of a tree cannot be written to. -/
inductive PathFault where
  /-- The path has no segment. -/
  | empty
  /-- A value on the way is not a map; `key` is the segment that leads to it. -/
  | notConfig (key : String)
  /-- A reason in words, from a tree that refuses. -/
  | other (message : String)
  deriving DecidableEq, Repr

/-- The text of a path's fault. -/
def PathFault.message : PathFault → String
  | .empty => "empty path"
  | .notConfig key => "`" ++ key ++ "` is not a config"
  | .other message => message

/-- An error of binding. -/
inductive Error where
  /-- The tree has no entry for a member, and no default applies. -/
  | missingEntry (path member declaringType : String)
  /-- A conversion failed, perhaps because of another error. -/
  | conversion (fault : Fault) (cause : Option Error)
  /-- An assertion on a member does not hold; `value` is the member's inspection text. -/
  | assertion (member declaringType value : String)
  /-- A rule of a member cannot be resolved. -/
  | ruleResolution (member declaringType : String) (fault : RuleFault)
  /-- A path cannot be written to; `path` holds its segments, joined by points. -/
  | path (path : String) (fault : PathFault)
  /-- An error in words, from outside the library. -/
  | custom (message : String)

/-- The four kinds of error. -/
inductive ErrorKind where
  | missingEntry
  | conversion
  | assertion
  | ruleResolution
  deriving DecidableEq, Repr

namespace Error

/-- A failed conversion without another error behind it. -/
def ofFault (fault : Fault) : Error := .conversion fault none

/-- A failed conversion with the error that made it fail. -/
def wrap (fault : Fault) (cause : Error) : Error := .conversion fault (some cause)

/-- An error about a path. -/
def ofPath (segments : List String) (fault : PathFault) : Error :=
  .path (".".intercalate segments) fault

/-- The kind of an error. Errors about paths and errors in words count as failed conversions. -/
def kind : Error → ErrorKind
  | .missingEntry _ _ _ => .missingEntry
  | .assertion _ _ _ => .assertion
  | .ruleResolution _ _ _ => .ruleResolution
  | .conversion _ _ | .path _ _ | .custom _ => .conversion

/-- Whether nothing is added to the error on its way out. -/
def isFinal (e : Error) : Bool := e.kind ≠ .conversion

/-- The text of an error: a failed conversion is followed by the error behind it. -/
def message : Error → String
  | .missingEntry entryPath member declaringType =>
    "Missing configuration entry `" ++ entryPath ++ "` for field `" ++ member ++ "` declared in "
      ++ declaringType
  | .conversion fault none => fault.message
  | .conversion fault (some cause) => fault.message ++ ": " ++ cause.message
  | .assertion member declaringType value =>
    "Field `" ++ declaringType ++ "::" ++ member ++ "` has an invalid value: " ++ value
  | .ruleResolution member declaringType fault =>
    "Cannot resolve rule for field `" ++ declaringType ++ "::" ++ member ++ "`: " ++ fault.message
  | .path joined fault => "Invalid path `" ++ joined ++ "`: " ++ fault.message
  | .custom message => "Error: " ++ message

end Error

/-- The outcome of a step that can fail. -/
abbrev Result (α : Type) := Except Error α

end ConfigBinding
