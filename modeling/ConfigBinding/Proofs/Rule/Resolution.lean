import ConfigBinding.Rule.Table
import Mathlib.Data.List.Induction

/-!
# Which closure a name stands for

A table is what has been inserted into it, in that order (`RuleTable.BuiltBy`). A rule asks for a name
and a shape: it is given the first closure of this shape under the name (`FirstOfShape`), from the
table of the declaring type if there is one there, else from the table of the companion, where the
shape is the one without the object.

Closures of other shapes under the same name are passed over, in both tables; without them every
rule would find the same closure (`RuleTable.ofShape`). Only the error is another one: if nothing is
found, it says whether the name is known at all (`Scope.resolvesNames`).
-/

namespace ConfigBinding

/-! ## Tables -/

/-- The table came about by inserting closures under names, in this order. Its owner may have got
another name in between. -/
inductive RuleTable.BuiltBy : RuleTable → List (String × Closure) → Prop where
  | start (owner : String) : BuiltBy ⟨owner, []⟩ []
  | insert {t : RuleTable} {inserted : List (String × Closure)} (h : BuiltBy t inserted)
    (name : String) (closure : Closure) :
    BuiltBy (t.insert name closure) (inserted ++ [(name, closure)])
  | named {t : RuleTable} {inserted : List (String × Closure)} (h : BuiltBy t inserted)
    (owner : String) : BuiltBy { t with owner := owner } inserted

/-- The companion, if there is one, has a table that came about by inserting these closures. -/
inductive Companion.BuiltBy : Option Companion → List (String × Closure) → Prop where
  | absent : BuiltBy none []
  | given {c : Companion} {inserted : List (String × Closure)} (h : c.table.BuiltBy inserted) :
    BuiltBy (some c) inserted

section Tables

variable {α : Type}

/-- The first closure of a shape under a name, given as what the shape takes from it. -/
def FirstOfShape (inserted : List (String × Closure)) (name : String) (shape : Closure → Option α)
    (f : α) : Prop :=
  ∃ before closure after, inserted = before ++ (name, closure) :: after ∧ shape closure = some f
    ∧ ∀ earlier, (name, earlier) ∈ before → shape earlier = none

/-- No closure under a name is of a shape. -/
def NoneOfShape (inserted : List (String × Closure)) (name : String)
    (shape : Closure → Option α) : Prop :=
  ∀ closure, (name, closure) ∈ inserted → shape closure = none

/-- There is a closure under a name, whatever its shape. -/
def Occurs (inserted : List (String × Closure)) (name : String) : Prop :=
  ∃ closure, (name, closure) ∈ inserted

theorem NoneOfShape.of_not_occurs {inserted : List (String × Closure)} {name : String}
    {shape : Closure → Option α} (h : ¬ Occurs inserted name) : NoneOfShape inserted name shape := by
  intro closure hclosure
  exact absurd ⟨closure, hclosure⟩ h

namespace RuleTable

variable {t : RuleTable} {inserted : List (String × Closure)} {name : String}
  {shape : Closure → Option α} {f : α}

/-- The table without closures of other shapes. -/
def ofShape (t : RuleTable) (shape : Closure → Option α) : RuleTable :=
  { t with entries := t.entries.filter fun p => (shape p.2).isSome }

theorem BuiltBy.entries_eq (h : t.BuiltBy inserted) : t.entries = inserted := by
  induction h with
  | start owner => rfl
  | insert h name closure ih => exact congrArg (· ++ [(name, closure)]) ih
  | named h owner ih => exact ih

/-- Every table came about by inserting its entries. -/
theorem builtBy_entries (t : RuleTable) : t.BuiltBy t.entries := by
  obtain ⟨owner, entries⟩ := t
  induction entries using List.reverseRecOn with
  | nil => exact .start owner
  | append_singleton rest p ih => exact ih.insert p.1 p.2

/-- Looking up a name is going through all entries. -/
theorem find?_eq_findSome? (t : RuleTable) (name : String) (shape : Closure → Option α) :
    t.find? name shape = t.entries.findSome? fun p => if p.1 = name then shape p.2 else none := by
  unfold find? named
  induction t.entries with
  | nil => rfl
  | cons p rest ih =>
    by_cases hp : p.1 = name
    · simp [List.findSome?_cons, hp, ih]
    · simp [hp, ih]

theorem find?_eq_some : t.find? name shape = some f ↔ FirstOfShape t.entries name shape f := by
  rw [find?_eq_findSome?, List.findSome?_eq_some_iff]
  constructor
  · rintro ⟨before, ⟨key, closure⟩, after, hsplit, hfound, hbefore⟩
    obtain ⟨rfl, hshape⟩ : key = name ∧ shape closure = some f := by simpa using hfound
    refine ⟨before, closure, after, hsplit, hshape, ?_⟩
    intro earlier hearlier
    simpa using hbefore _ hearlier
  · rintro ⟨before, closure, after, hsplit, hshape, hbefore⟩
    refine ⟨before, (name, closure), after, hsplit, by simpa using hshape, ?_⟩
    rintro ⟨key, earlier⟩ hearlier
    split
    · rename_i hkey
      obtain rfl : key = name := hkey
      exact hbefore earlier hearlier
    · rfl

theorem find?_eq_none : t.find? name shape = none ↔ NoneOfShape t.entries name shape := by
  rw [find?_eq_findSome?, List.findSome?_eq_none_iff]
  constructor
  · intro h closure hclosure
    simpa using h _ hclosure
  · rintro h ⟨key, closure⟩ hclosure
    split
    · rename_i hkey
      obtain rfl : key = name := hkey
      exact h closure hclosure
    · rfl

theorem contains_eq_true : t.contains name = true ↔ Occurs t.entries name := by
  simp [contains, named, Occurs]

/-- Closures of other shapes do not get in the way. -/
theorem find?_ofShape : (t.ofShape shape).find? name shape = t.find? name shape := by
  rw [find?_eq_findSome?, find?_eq_findSome?, ofShape]
  induction t.entries with
  | nil => rfl
  | cons p rest ih =>
    cases hp : shape p.2 with
    | none => simp [hp, ih]
    | some g => simp [List.findSome?_cons, hp, ih]

end RuleTable

end Tables

/-! ## Checks -/

namespace Companion.BuiltBy

variable {α : Type} {companion : Option Companion} {inserted : List (String × Closure)}
  {name : String} {shape : Closure → Option α} {f : α}

theorem find?_eq_some (h : BuiltBy companion inserted) :
    companion.bind (·.table.find? name shape) = some f ↔ FirstOfShape inserted name shape f := by
  cases h with
  | absent => simp [FirstOfShape]
  | given h => exact RuleTable.find?_eq_some.trans (by rw [h.entries_eq])

theorem find?_eq_none (h : BuiltBy companion inserted) :
    companion.bind (·.table.find? name shape) = none ↔ NoneOfShape inserted name shape := by
  cases h with
  | absent => simp [NoneOfShape]
  | given h => exact RuleTable.find?_eq_none.trans (by rw [h.entries_eq])

theorem contains_eq_true (h : BuiltBy companion inserted) :
    companion.any (·.table.contains name) = true ↔ Occurs inserted name := by
  cases h with
  | absent => simp [Occurs]
  | given h => exact RuleTable.contains_eq_true.trans (by rw [h.entries_eq])

end Companion.BuiltBy

/-- The companion without closures of other shapes. -/
def Companion.ofShape {α : Type} (c : Companion) (shape : Closure → Option α) : Companion :=
  { c with table := c.table.ofShape shape }

namespace Scope

variable {α : Type}

/-- The tables that are searched for a name, in words. -/
def searched (scope : Scope) : Option Companion → String
  | none => scope.table.owner
  | some c => scope.table.owner ++ " or " ++ c.name

/-- The step fails because a rule cannot be resolved. The error names the member and the type that
declares it, and gives the reason. -/
def Refuses (scope : Scope) (r : Result α) (reason : String) : Prop :=
  ∃ fault, r = .error (.ruleResolution scope.member scope.declaringType fault)
    ∧ Error.message (.ruleResolution scope.member scope.declaringType fault)
      = "Cannot resolve rule for field `" ++ scope.declaringType ++ "::" ++ scope.member ++ "`: "
        ++ reason

/-- How the closure of a check is found, by an object type into whose table some closures were
inserted, and with a companion into whose table others were. -/
structure ResolvesNames (scope : Scope) (role : RuleRole) (own shared : Closure → Option α)
    (inserted : List (String × Closure)) (companion : Option Companion)
    (served : List (String × Closure)) : Prop where
  /-- A closure that the check comes with is taken as it is. -/
  inline : ∀ f, scope.resolve role own shared (.inline f) = .ok f
  /-- A check without name and closure is an error. -/
  unset : scope.Refuses (scope.resolve role own shared .unset)
    ("custom " ++ role.name ++ " without a name or closure")
  /-- A name stands for the first closure of the own shape in the type's table, and only if there is
  none for the first one of the shared shape in that of the companion. -/
  found : ∀ name f, scope.resolve role own shared (.named name companion) = .ok f
    ↔ FirstOfShape inserted name own f
      ∨ NoneOfShape inserted name own ∧ FirstOfShape served name shared f
  /-- Otherwise the name is of no use, if there is anything under it in one of the tables, -/
  notApplicable : ∀ name, NoneOfShape inserted name own → NoneOfShape served name shared
    → Occurs inserted name ∨ Occurs served name
    → scope.Refuses (scope.resolve role own shared (.named name companion))
      ("`" ++ name ++ "` in " ++ scope.searched companion ++ " is not a " ++ role.name
        ++ " applicable to this field")
  /-- and else it is not known. -/
  unknown : ∀ name, ¬ Occurs inserted name → ¬ Occurs served name
    → scope.Refuses (scope.resolve role own shared (.named name companion))
      ("no " ++ role.name ++ " named `" ++ name ++ "` in " ++ scope.searched companion)
  /-- Closures of other shapes are not found, and hide none: without them, in both tables, the same
  closures are found. -/
  otherShapes : ∀ name f, scope.resolve role own shared (.named name companion) = .ok f
    ↔ { scope with table := scope.table.ofShape own }.resolve role own shared
      (.named name (companion.map (Companion.ofShape · shared))) = .ok f

variable {scope : Scope} {role : RuleRole} {own shared : Closure → Option α}
  {inserted served : List (String × Closure)} {companion : Option Companion} {name : String} {f : α}

theorem resolve_named_eq_ok : scope.resolve role own shared (.named name companion) = .ok f
    ↔ scope.table.find? name own = some f ∨ scope.table.find? name own = none
      ∧ companion.bind (·.table.find? name shared) = some f := by
  unfold resolve
  cases hown : scope.table.find? name own with
  | some g => simp [hown]
  | none =>
    cases hshared : companion.bind (·.table.find? name shared) with
    | some g => simp [hown, hshared]
    | none => simp [hown, hshared]

theorem resolve_named_eq_error (hown : scope.table.BuiltBy inserted)
    (hshared : Companion.BuiltBy companion served) (hnone : NoneOfShape inserted name own)
    (hnone' : NoneOfShape served name shared) :
    scope.resolve role own shared (.named name companion)
      = .error (scope.error (scope.notFound role name companion)) := by
  rw [← hown.entries_eq, ← RuleTable.find?_eq_none] at hnone
  rw [← hshared.find?_eq_none] at hnone'
  unfold resolve
  simp only [hnone, hnone']

/-- The tables in a message are those that are searched. -/
theorem intercalate_searched (scope : Scope) (companion : Option Companion) :
    " or ".intercalate (scope.table.owner :: (companion.map Companion.name).toList)
      = scope.searched companion := by
  cases companion with
  | none => rfl
  | some c => rfl

/-- A name is known when something has been inserted under it. -/
theorem isKnown_iff (hown : scope.table.BuiltBy inserted)
    (hshared : Companion.BuiltBy companion served) :
    (scope.table.contains name || companion.any (·.table.contains name)) = true
      ↔ Occurs inserted name ∨ Occurs served name := by
  rw [Bool.or_eq_true_iff, RuleTable.contains_eq_true, hown.entries_eq, hshared.contains_eq_true]

theorem refuses_error {fault : RuleFault} {reason : String} (h : fault.message = reason) :
    scope.Refuses (.error (scope.error fault) : Result α) reason := by
  subst h
  exact ⟨fault, rfl, rfl⟩

/-- The closure of every check is found in this way, for each role of a rule and each pair of
shapes, whatever has been inserted into the tables before. -/
theorem resolvesNames (scope : Scope) (role : RuleRole) (own shared : Closure → Option α)
    (hown : scope.table.BuiltBy inserted) (hshared : Companion.BuiltBy companion served) :
    scope.ResolvesNames role own shared inserted companion served where
  inline f := rfl
  unset := refuses_error rfl
  found name f := by
    rw [resolve_named_eq_ok, RuleTable.find?_eq_some, RuleTable.find?_eq_none, hown.entries_eq,
      hshared.find?_eq_some]
  notApplicable name hnone hnone' hoccurs := by
    rw [resolve_named_eq_error hown hshared hnone hnone']
    apply refuses_error
    rw [notFound, if_pos ((isKnown_iff hown hshared).mpr hoccurs), RuleFault.message,
      intercalate_searched]
  unknown name hown' hserved := by
    rw [resolve_named_eq_error hown hshared (.of_not_occurs hown') (.of_not_occurs hserved)]
    apply refuses_error
    rw [notFound, if_neg (not_or.mpr ⟨hown', hserved⟩ ∘ (isKnown_iff hown hshared).mp),
      RuleFault.message, intercalate_searched]
  otherShapes name f := by
    have hcompanion : (companion.map (Companion.ofShape · shared)).bind
        (·.table.find? name shared) = companion.bind (·.table.find? name shared) := by
      cases companion with
      | none => rfl
      | some c => exact RuleTable.find?_ofShape
    rw [resolve_named_eq_ok, resolve_named_eq_ok, RuleTable.find?_ofShape, hcompanion]

end Scope

/-! ## The limit of a listener

The name stands for an assertion about ports and for a provider of texts in the table of the
listener. Neither is a provider of ports, and the first one in the table of the companion is that
of 8080: the predicate under the same name does not get in its way.
-/

namespace Example

/-- What is inserted into the table of the listener. -/
def listenerClosures : List (String × Closure) :=
  [("limit", .assertion "u16" fun _ _ => true), ("limit", .provider "String" fun _ => .string "")]

/-- What is inserted into the table of the companion. -/
def limitClosures : List (String × Closure) :=
  [("limit", .sharedSkip fun _ => true), ("limit", .sharedProvider "u16" (.integer 8080)),
    ("limit", .sharedProvider "u16" (.integer 9090))]

/-- The companion. -/
def limits : Companion := ⟨"Limits", ⟨"Limits", limitClosures⟩⟩

/-- The member that asks for the limit, and the table of the listener. -/
def listenerScope : Scope := ⟨"port", "Listener", ⟨"Listener", listenerClosures⟩⟩

/-- As a default of ports, the limit is found with the companion, and not applicable without it. -/
theorem resolvesNames_limit :
    listenerScope.table.BuiltBy listenerClosures
      ∧ Companion.BuiltBy (some limits) limitClosures
      ∧ listenerScope.resolve .defaultProvider (Closure.provider? "u16")
        (Closure.sharedProvider? "u16") (.named "limit" (some limits))
        = .ok (fun _ => .integer 8080)
      ∧ listenerScope.Refuses (listenerScope.resolve .defaultProvider (Closure.provider? "u16")
        (Closure.sharedProvider? "u16") (.named "limit" none))
        "`limit` in Listener is not a default value provider applicable to this field" := by
  have hown : listenerScope.table.BuiltBy listenerClosures := RuleTable.builtBy_entries _
  have hserved : Companion.BuiltBy (some limits) limitClosures :=
    .given (RuleTable.builtBy_entries _)
  have hnone : NoneOfShape listenerClosures "limit" (Closure.provider? "u16") := by
    intro closure hclosure
    simp only [listenerClosures, List.mem_cons, Prod.mk.injEq, true_and, List.not_mem_nil,
      or_false] at hclosure
    rcases hclosure with rfl | rfl <;> rfl
  refine ⟨hown, hserved, ?_, ?_⟩
  · apply ((Scope.resolvesNames listenerScope .defaultProvider _ _ hown hserved).found _ _).mpr
    refine .inr ⟨hnone, [_], _, [_], rfl, rfl, ?_⟩
    intro earlier hearlier
    obtain rfl := (Prod.mk.inj (List.mem_singleton.mp hearlier)).2
    rfl
  · exact (Scope.resolvesNames listenerScope .defaultProvider _ _ hown .absent).notApplicable _
      hnone nofun (.inl ⟨_, .head _⟩)

end Example

end ConfigBinding
