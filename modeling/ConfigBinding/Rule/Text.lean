import ConfigBinding.Rule.Basic

/-!
# Rules as text

How inspection shows rules. Closures have no text, so a rule that is a closure is only seen to be
one.
-/

namespace ConfigBinding

/-- The text of a condition for skipping in inspection. -/
def SkipIf.inspect : SkipIf → String
  | .always => "Always"
  | .isMissing => "IsMissing"
  | .isNull => "IsNull"
  | .isEmpty => "IsEmpty"
  | .custom check => inspectCall "Custom" [check.inspect]

/-- The text of a trigger in inspection. -/
def Trigger.inspect : Trigger → String
  | .isMissing => "IsMissing"
  | .isNull => "IsNull"
  | .isEmpty => "IsEmpty"

/-- The text of an assertion in inspection. -/
def AssertThat.inspect : AssertThat → String
  | .notNull => "NotNull"
  | .notEmpty => "NotEmpty"
  | .custom check => inspectCall "Custom" [check.inspect]

/-- The text of a default in inspection. -/
def DefaultRule.inspect (r : DefaultRule) : String :=
  inspectFields "DefaultRule"
    [("provider", r.provider.inspect),
     ("when", enclosed "[" "]" (r.triggers.map Trigger.inspect))]

/-- The text of a block of rules in inspection. -/
def RuleSet.inspect (s : RuleSet) : String :=
  let list := enclosed "[" "]"
  inspectFields "RuleSet"
    [("key", inspectOption (s.key.map Text.Quoted.string)),
     ("comments", list (s.comments.map Text.Quoted.string)),
     ("defaults", list (s.defaults.map DefaultRule.inspect)),
     ("skip", list (s.skips.map SkipIf.inspect)),
     ("skip_serializing_if", list (s.skipsWriting.map SkipIf.inspect)),
     ("skip_deserializing_if", list (s.skipsReading.map SkipIf.inspect)),
     ("asserts", list (s.asserts.map AssertThat.inspect))]

/-- The text of the rules of a member in inspection. -/
def MemberRules.inspect (r : MemberRules) : String :=
  inspectFields "FieldRules"
    [("consolidated", inspectOption (r.consolidated.map RuleSet.inspect)),
     ("standalone", r.standalone.inspect),
     ("transient", toString r.isTransient)]

end ConfigBinding
