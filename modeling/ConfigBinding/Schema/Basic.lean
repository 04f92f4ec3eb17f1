import ConfigBinding.Rule.Evaluation

/-!
# Schemas

A schema lists the members of an object type in the order in which they are processed, and holds
the table of the type's named rules. A member is a slot with a name, a type and rules. The members
of an object that sits in a slot can be made members of the object around it: they come behind its
own members, keep the type that declares them and its table, and lie at the end of a longer chain
of slots. Of several members of one name the first one counts (`SchemaBuilder.build`).

What a type of members is, is left open: a schema is built over descriptions of types, and run over
their codecs.
-/

namespace ConfigBinding

/-- A member of an object type. -/
structure Member (τ : Type) where
  name : String
  /-- The slots that lead to the object whose type declares the member. -/
  path : List String
  slot : String
  type : τ
  declaringType : String
  rules : MemberRules
  /-- The named rules of the type that declares the member. -/
  table : RuleTable

/-- The members of an object type, and its named rules. -/
structure Schema (τ : Type) where
  typeName : String
  members : List (Member τ)
  table : RuleTable

namespace Member

variable {τ : Type}

/-- What the member's rules are looked at with. -/
def scope (m : Member τ) : Scope := ⟨m.name, m.declaringType, m.table⟩

/-- The member as a member of an object that holds the declaring object in a slot. -/
def below (slot : String) (m : Member τ) : Member τ := { m with path := slot :: m.path }

/-- The object whose type declares the member. -/
def owner (m : Member τ) (x : Object) : Object := x.part m.path

/-- The datum of the member. -/
def get (m : Member τ) (x : Object) : Datum := (m.owner x).get m.slot

/-- Gives the member a datum. -/
def set (m : Member τ) (x : Object) (d : Datum) : Object :=
  x.updatePart (fun owner => owner.set m.slot d) m.path

/-- The member with another description of its type. -/
def mapType {υ : Type} (f : τ → υ) (m : Member τ) : Member υ :=
  ⟨m.name, m.path, m.slot, f m.type, m.declaringType, m.rules, m.table⟩

end Member

namespace Schema

variable {τ : Type}

/-- The names of the members in their order. -/
def memberNames (s : Schema τ) : List String := s.members.map Member.name

/-- The schema with other descriptions of its members' types. -/
def mapType {υ : Type} (f : τ → υ) (s : Schema τ) : Schema υ :=
  ⟨s.typeName, s.members.map (·.mapType f), s.table⟩

/-- The text of a schema in inspection. -/
def inspect (s : Schema τ) : String :=
  inspectFields "Schema"
    [("type_name", Text.Quoted.string s.typeName),
     ("members", enclosed "[" "]" (s.memberNames.map Text.Quoted.string))]

end Schema

/-- The members without those whose name has come before. -/
def firstOfName {τ : Type} (seen : List String) : List (Member τ) → List (Member τ)
  | [] => []
  | m :: rest =>
    if m.name ∈ seen then firstOfName seen rest
    else m :: firstOfName (m.name :: seen) rest

/-- A schema under construction. -/
structure SchemaBuilder (τ : Type) where
  typeName : String
  /-- The type's own members. -/
  own : List (Member τ)
  /-- The members of objects in its slots. -/
  inherited : List (Member τ)
  table : RuleTable

namespace SchemaBuilder

variable {τ : Type}

/-- The schema without members of a type. -/
def start (typeName : String) : SchemaBuilder τ := ⟨typeName, [], [], ⟨typeName, []⟩⟩

/-- Gives the type another name. Members that are there already keep the name that declared
them. -/
def named (b : SchemaBuilder τ) (typeName : String) : SchemaBuilder τ :=
  { b with typeName := typeName, table := { b.table with owner := typeName } }

/-- Adds a member. -/
def field (b : SchemaBuilder τ) (name slot : String) (type : τ) (rules : MemberRules) :
    SchemaBuilder τ :=
  { b with own := b.own ++ [⟨name, [], slot, type, b.typeName, rules, b.table⟩] }

/-- Makes the members of the object in a slot members of this one. -/
def embed (b : SchemaBuilder τ) (slot : String) (parent : Schema τ) : SchemaBuilder τ :=
  { b with inherited := b.inherited ++ parent.members.map (·.below slot) }

/-- Adds a named rule. -/
def rule (b : SchemaBuilder τ) (name : String) (closure : Closure) : SchemaBuilder τ :=
  { b with table := b.table.insert name closure }

/-- The schema: own members first, all of which see every named rule, then the others. -/
def build (b : SchemaBuilder τ) : Schema τ where
  typeName := b.typeName
  members := firstOfName [] (b.own.map (fun m => { m with table := b.table }) ++ b.inherited)
  table := b.table

end SchemaBuilder

end ConfigBinding
