import ConfigBinding.Rule.Table

/-!
# Rules of a member

The rules of a member say under which key it is stored, which comment is written, what its default
is and when that applies, when it is skipped, and which data are valid. They come in two blocks. A
consolidated block, if there is one, is asked before the standalone rules, so for everything that
the first answer decides it takes precedence.
-/

namespace ConfigBinding

/-- The two directions of a run. -/
inductive Direction where
  | writing
  | reading
  deriving DecidableEq, Repr

/-- When a member is skipped. -/
inductive SkipIf where
  | always
  /-- The tree has no entry. -/
  | isMissing
  /-- The datum is null. When reading, a missing entry counts as null. -/
  | isNull
  | isEmpty
  | custom (check : Check SkipPredicate)

/-- What makes a default apply. -/
inductive Trigger where
  /-- The tree has no entry. -/
  | isMissing
  | isNull
  | isEmpty
  deriving DecidableEq, Repr

/-- A default and what makes it apply. -/
structure DefaultRule where
  provider : Check Provider
  triggers : List Trigger := [.isMissing]

/-- What must hold of a datum before it is written or taken over. -/
inductive AssertThat where
  | notNull
  | notEmpty
  | custom (check : Check Assertion)

/-- A rule. -/
inductive Rule where
  | key (key : String)
  /-- A line of the comment. -/
  | comment (line : String)
  | default (rule : DefaultRule)
  /-- Skips a member in one direction, or in both. -/
  | skip (direction : Option Direction) (when : SkipIf)
  | assert (rule : AssertThat)

/-- A block of rules, sorted by what they are about. -/
structure RuleSet where
  key : Option String := none
  comments : List String := []
  defaults : List DefaultRule := []
  skips : List SkipIf := []
  skipsWriting : List SkipIf := []
  skipsReading : List SkipIf := []
  asserts : List AssertThat := []

namespace RuleSet

/-- Adds a rule behind the ones added before; only a key replaces one. -/
def add (s : RuleSet) : Rule → RuleSet
  | .key key => { s with key := some key }
  | .comment line => { s with comments := s.comments ++ [line] }
  | .default rule => { s with defaults := s.defaults ++ [rule] }
  | .skip none w => { s with skips := s.skips ++ [w] }
  | .skip (some .writing) w => { s with skipsWriting := s.skipsWriting ++ [w] }
  | .skip (some .reading) w => { s with skipsReading := s.skipsReading ++ [w] }
  | .assert rule => { s with asserts := s.asserts ++ [rule] }

/-- The skip rules of a direction: those for both directions, then those for this one. -/
def skipRules (s : RuleSet) : Direction → List SkipIf
  | .writing => s.skips ++ s.skipsWriting
  | .reading => s.skips ++ s.skipsReading

end RuleSet

/-- All rules of a member. -/
structure MemberRules where
  /-- The block that is asked first. -/
  consolidated : Option RuleSet := none
  standalone : RuleSet := {}
  /-- Whether the member is left out where transient members are. -/
  isTransient : Bool := false

namespace MemberRules

/-- Adds a standalone rule. -/
def add (r : MemberRules) (rule : Rule) : MemberRules :=
  { r with standalone := r.standalone.add rule }

/-- Adds rules to the consolidated block, which is there from then on. -/
def addBlock (r : MemberRules) (rules : List Rule) : MemberRules :=
  { r with consolidated := some (rules.foldl RuleSet.add (r.consolidated.getD {})) }

/-- Marks the member as transient. -/
def markTransient (r : MemberRules) : MemberRules := { r with isTransient := true }

/-- The blocks in the order in which they are asked. -/
def blocks (r : MemberRules) : List RuleSet := r.consolidated.toList ++ [r.standalone]

/-- The skip rules of a direction. -/
def skipRules (r : MemberRules) (direction : Direction) : List SkipIf :=
  r.blocks.flatMap (·.skipRules direction)

/-- The defaults. -/
def defaults (r : MemberRules) : List DefaultRule := r.blocks.flatMap RuleSet.defaults

/-- The assertions. -/
def asserts (r : MemberRules) : List AssertThat := r.blocks.flatMap RuleSet.asserts

/-- The key of a member with a name: the first one given, else the one that `naming` makes. -/
def key (r : MemberRules) (naming : String → String) (name : String) : String :=
  (r.blocks.findSome? RuleSet.key).getD (naming name)

/-- The comment: the lines of the first block that has any. -/
def comment? (r : MemberRules) : Option String :=
  (r.blocks.find? (!·.comments.isEmpty)).map fun s => "\n".intercalate s.comments

end MemberRules

end ConfigBinding
