import ConfigBinding.Proofs.Object.Place
import ConfigBinding.Proofs.Schema.Run

/-!
# Inherited members

A type that embeds objects of other types in its slots inherits their members. What an inherited
member does in a run is what the member does by itself in the embedded object, to any depth
(`Member.write_within`, `Member.read_within`): its rules are those of the type that declares it, and
nothing changes outside the embedded object.

Of members of one name only the first one counts. So a schema that is built from own members and
embedded objects consists of its own members and then, slot by slot, of those members of the
embedded objects whose names have not come before (`visibleParts`), and a run over it is a run over
its own members and then one over each of the embedded objects by itself (`Schema.inherits`).

Whatever is called on a schema builder, and in whatever order, is a list of steps (`BuildStep`).
-/

namespace ConfigBinding

/-! ## Parts of objects as wholes -/

namespace Object

variable {x : Object}

/-- There is nothing inside an object without slots. -/
theorem part_empty (path : List String) : part path ⟨"", []⟩ = ⟨"", []⟩ := by
  cases path <;> rfl

theorem part_append (path rest : List String) (x : Object) :
    x.part (path ++ rest) = (x.part path).part rest := by
  induction path generalizing x with
  | nil => rfl
  | cons slot path ih =>
    rw [List.cons_append, part, part]
    cases x.embedded? slot with
    | none => exact (part_empty rest).symm
    | some sub => exact ih sub

/-- A change inside a part makes another object of the part. -/
theorem updatePart_append (f : Object → Object) (path rest : List String) (x : Object) :
    x.updatePart f (path ++ rest) = x.updatePart (fun part => part.updatePart f rest) path := by
  induction path generalizing x with
  | nil => rfl
  | cons slot path ih =>
    rw [List.cons_append, updatePart, updatePart]
    cases x.embedded? slot with
    | none => rfl
    | some sub => exact congrArg (fun y => x.set slot (.object y)) (ih sub)

/-- What a change makes of a part depends on that part alone. -/
theorem updatePart_eq_const (f : Object → Object) (path : List String) (x : Object) :
    x.updatePart f path = x.updatePart (fun _ => f (x.part path)) path := by
  induction path generalizing x with
  | nil => rfl
  | cons slot path ih =>
    rw [updatePart, updatePart, part]
    cases x.embedded? slot with
    | none => rfl
    | some sub => exact congrArg (fun y => x.set slot (.object y)) (ih sub)

/-- Putting a part where it is changes nothing. -/
theorem updatePart_self (path : List String) (x : Object) :
    x.updatePart (fun _ => x.part path) path = x := by
  induction path generalizing x with
  | nil => rfl
  | cons slot path ih =>
    rw [updatePart, part]
    cases hembedded : x.embedded? slot with
    | none => rfl
    | some sub =>
      dsimp only
      rw [ih sub]
      exact set_of_get? (embedded?_eq_some.mp hembedded)

theorem part_of_embedded? {slot : String} {y : Object} (h : x.embedded? slot = some y) :
    x.part [slot] = y := by
  rw [part, h]
  rfl

theorem updatePart_of_embedded? {slot : String} {y : Object} (h : x.embedded? slot = some y)
    (f : Object → Object) : x.updatePart f [slot] = x.set slot (.object (f y)) := by
  rw [updatePart, h]
  rfl

end Object

/-! ## Members of parts -/

namespace Member

variable {τ : Type}

/-- The member as a member of an object that holds the member's object at the end of a chain. -/
def within (path : List String) (m : Member τ) : Member τ := { m with path := path ++ m.path }

/-- The member as its own type has it. -/
def declared (m : Member τ) : Member τ := { m with path := [] }

theorem declared_within (m : Member τ) : m.declared.within m.path = m := by
  obtain ⟨name, path, slot, type, declaringType, rules, table⟩ := m
  rw [within, declared, List.append_nil]

theorem owner_within (path : List String) (m : Member τ) (x : Object) :
    (m.within path).owner x = m.owner (x.part path) :=
  Object.part_append path m.path x

theorem get_within (path : List String) (m : Member τ) (x : Object) :
    (m.within path).get x = m.get (x.part path) :=
  congrArg (·.get m.slot) (owner_within path m x)

variable {σ : Type} [Store σ] (path : List String) (m : Member Codec) (o : Options) (x : Object)

theorem toWrite_within : (m.within path).toWrite o x = m.toWrite o (x.part path) := by
  have hown : (m.within path).ownNative o x = m.ownNative o (x.part path) := by
    rw [ownNative, ownNative, get_within]
    rfl
  have hseen : ∀ own, (m.within path).observed x own = m.observed (x.part path) own := fun own => by
    rw [observed, observed, get_within]
  rw [toWrite, toWrite, substituted, substituted, hown, hseen, owner_within, get_within]
  rfl

/-- A member of a part is written like the member by itself out of the part. -/
theorem write_within (s : σ) : (m.within path).write o x s = m.write o (x.part path) s := by
  rw [write, write, toWrite_within]
  rfl

theorem toRead_within (source : σ) :
    (m.within path).toRead o source x = m.toRead o source (x.part path) := by
  rw [toRead, toRead, owner_within]
  rfl

/-- A member of a part is read like the member by itself into the part, and nothing else changes. -/
theorem read_within (source : σ) :
    (m.within path).read o source x
      = ((m.read o source (x.part path)).1,
        x.updatePart (fun _ => (m.read o source (x.part path)).2) path) := by
  rw [read, read, toRead_within]
  cases m.toRead o source (x.part path) with
  | error e => exact Prod.ext rfl (Object.updatePart_self path x).symm
  | ok d =>
    cases d with
    | none => exact Prod.ext rfl (Object.updatePart_self path x).symm
    | some d =>
      refine Prod.ext rfl ?_
      exact (Object.updatePart_append _ path m.path x).trans (Object.updatePart_eq_const _ path x)

end Member

/-! ## Runs over the members of an embedded object -/

section Parts

variable {σ : Type} [Store σ] {o : Options} {slot : String} {x y : Object}
  {ms : List (Member Codec)}

theorem Member.read_below (h : x.embedded? slot = some y) (m : Member Codec) (source : σ) :
    (m.below slot).read o source x
      = ((m.read o source y).1, x.set slot (.object (m.read o source y).2)) := by
  have hwithin := m.read_within [slot] o x source
  rwa [Object.part_of_embedded? h, Object.updatePart_of_embedded? h] at hwithin

/-- A run over the members of an embedded object writes the embedded object. -/
theorem writeMembers_below (s : σ) :
    writeMembers o x (ms.map (·.below slot)) s = writeMembers o (x.part [slot]) ms s := by
  induction ms generalizing s with
  | nil => rfl
  | cons m rest ih =>
    have hm : (m.below slot).write o x s = m.write o (x.part [slot]) s :=
      m.write_within [slot] o x s
    rw [List.map_cons, writeMembers, writeMembers, hm]
    split
    · rfl
    · exact ih _

/-- A run over the members of an embedded object reads the embedded object, in its place. -/
theorem readMembers_below (h : x.embedded? slot = some y) (source : σ) :
    readMembers o source (ms.map (·.below slot)) x
      = ((readMembers o source ms y).1, x.set slot (.object (readMembers o source ms y).2)) := by
  induction ms generalizing x y with
  | nil => exact Prod.ext rfl (Object.set_of_get? (Object.embedded?_eq_some.mp h)).symm
  | cons m rest ih =>
    rw [List.map_cons, readMembers, readMembers, Member.read_below h]
    cases hread : m.read o source y with
    | mk r y' =>
      cases r with
      | error e => rfl
      | ok _ =>
        dsimp only
        rw [ih (Object.embedded?_set_self slot y'), Object.set_set_self]

/-- Writes objects that sit in slots one after the other, each by its own schema. -/
def writeParts (o : Options) (x : Object) : List (String × Schema Codec) → σ → Outcome σ Unit
  | [], s => (.ok (), s)
  | (slot, parent) :: rest, s =>
    match parent.write o (x.part [slot]) s with
    | (.error e, s) => (.error e, s)
    | (.ok _, s) => writeParts o x rest s

/-- Reads objects that sit in slots one after the other, each by its own schema. -/
def readParts (o : Options) (source : σ) :
    List (String × Schema Codec) → Object → Outcome Object Unit
  | [], x => (.ok (), x)
  | (slot, parent) :: rest, x =>
    match parent.read o source (x.part [slot]) with
    | (.error e, y) => (.error e, x.set slot (.object y))
    | (.ok _, y) => readParts o source rest (x.set slot (.object y))

/-- The members of objects in slots, as members of the object around them. -/
def membersBelow {τ : Type} (parts : List (String × Schema τ)) : List (Member τ) :=
  parts.flatMap fun p => p.2.members.map (·.below p.1)

theorem filter_includes_below {τ : Type} (ms : List (Member τ)) :
    (ms.map (·.below slot)).filter o.includes = (ms.filter o.includes).map (·.below slot) :=
  List.filter_map

variable {parts : List (String × Schema Codec)}

theorem writeMembers_membersBelow (s : σ) :
    writeMembers o x ((membersBelow parts).filter o.includes) s = writeParts o x parts s := by
  induction parts generalizing s with
  | nil => rfl
  | cons p rest ih =>
    rw [membersBelow, List.flatMap_cons, List.filter_append, filter_includes_below,
      writeMembers_append, writeMembers_below, writeParts]
    cases hrun : p.2.write o (x.part [p.1]) s with
    | mk r s' =>
      have hrun' : writeMembers o (x.part [p.1]) (p.2.members.filter o.includes) s = (r, s') := hrun
      rw [hrun']
      cases r with
      | error e => rfl
      | ok _ => exact ih s'

theorem readMembers_membersBelow (h : ∀ p ∈ parts, (x.embedded? p.1).isSome) (source : σ) :
    readMembers o source ((membersBelow parts).filter o.includes) x
      = readParts o source parts x := by
  induction parts generalizing x with
  | nil => rfl
  | cons p rest ih =>
    obtain ⟨hp, hrest⟩ := List.forall_mem_cons.mp h
    obtain ⟨y, hy⟩ := Option.isSome_iff_exists.mp hp
    rw [membersBelow, List.flatMap_cons, List.filter_append, filter_includes_below,
      readMembers_append, readMembers_below hy, readParts, Object.part_of_embedded? hy]
    cases hrun : p.2.read o source y with
    | mk r y' =>
      have hrun' : readMembers o source (p.2.members.filter o.includes) y = (r, y') := hrun
      rw [hrun']
      cases r with
      | error e => rfl
      | ok _ =>
        refine ih fun q hq => ?_
        -- the slot that was read holds an object again
        by_cases hne : q.1 = p.1
        · rw [hne, Object.embedded?_set_self]
          rfl
        · rw [Object.embedded?_set_of_ne _ hne]
          exact hrest q hq

end Parts

/-! ## First occurrences -/

section FirstOfName

variable {τ : Type} {seen seen' : List String} {ms : List (Member τ)} {m : Member τ} {name : String}

theorem firstOfName_of_mem (h : m.name ∈ seen) :
    firstOfName seen (m :: ms) = firstOfName seen ms := if_pos h

theorem firstOfName_of_not_mem (h : m.name ∉ seen) :
    firstOfName seen (m :: ms) = m :: firstOfName (m.name :: seen) ms := if_neg h

/-- It does not matter in which order the names have come. -/
theorem firstOfName_congr (h : ∀ name, name ∈ seen ↔ name ∈ seen') :
    firstOfName seen ms = firstOfName seen' ms := by
  induction ms generalizing seen seen' with
  | nil => rfl
  | cons m rest ih =>
    by_cases hm : m.name ∈ seen
    · rw [firstOfName_of_mem hm, firstOfName_of_mem ((h _).mp hm), ih h]
    · have hnext : ∀ name, name ∈ m.name :: seen ↔ name ∈ m.name :: seen' := fun name => by
        rw [List.mem_cons, List.mem_cons, h]
      rw [firstOfName_of_not_mem hm, firstOfName_of_not_mem fun h' => hm ((h _).mpr h'), ih hnext]

theorem firstOfName_append (ms rest : List (Member τ)) :
    firstOfName seen (ms ++ rest)
      = firstOfName seen ms ++ firstOfName (ms.map Member.name ++ seen) rest := by
  induction ms generalizing seen with
  | nil => rfl
  | cons m front ih =>
    rw [List.cons_append, List.map_cons, List.cons_append]
    by_cases hm : m.name ∈ seen
    · rw [firstOfName_of_mem hm, firstOfName_of_mem hm, ih]
      refine congrArg _ (firstOfName_congr fun name => ?_)
      rw [List.mem_cons, List.mem_append]
      exact ⟨.inr, fun h => h.elim (fun heq => .inr (heq ▸ hm)) id⟩
    · rw [firstOfName_of_not_mem hm, firstOfName_of_not_mem hm, ih, List.cons_append]
      refine congrArg _ (congrArg _ (firstOfName_congr fun name => ?_))
      simp only [List.mem_append, List.mem_cons]
      exact or_left_comm

/-- Where a member sits does not matter. -/
theorem firstOfName_below (slot : String) (ms : List (Member τ)) :
    firstOfName seen (ms.map (·.below slot)) = (firstOfName seen ms).map (·.below slot) := by
  induction ms generalizing seen with
  | nil => rfl
  | cons m rest ih =>
    by_cases hm : m.name ∈ seen
    · rw [firstOfName_of_mem hm, ← ih]
      exact firstOfName_of_mem (m := m.below slot) hm
    · rw [firstOfName_of_not_mem hm, List.map_cons, List.map_cons, ← ih]
      exact firstOfName_of_not_mem (m := m.below slot) hm

theorem mem_of_mem_firstOfName (h : m ∈ firstOfName seen ms) : m ∈ ms := by
  induction ms generalizing seen with
  | nil => cases h
  | cons m' rest ih =>
    by_cases hm : m'.name ∈ seen
    · rw [firstOfName_of_mem hm] at h
      exact List.mem_cons_of_mem _ (ih h)
    · rw [firstOfName_of_not_mem hm] at h
      rcases List.mem_cons.mp h with rfl | h
      · exact List.mem_cons_self
      · exact List.mem_cons_of_mem _ (ih h)

/-- The names that are left are the first occurrences of those that have not come before. -/
theorem names_firstOfName (seen : List String) (ms : List (Member τ)) :
    (firstOfName seen ms).map Member.name
      = ((ms.map Member.name).filter (· ∉ seen)).eraseDups := by
  induction ms generalizing seen with
  | nil => rfl
  | cons m rest ih =>
    rw [List.map_cons]
    by_cases hm : m.name ∈ seen
    · rw [firstOfName_of_mem hm, ih, List.filter_cons_of_neg (by simpa using hm)]
    · rw [firstOfName_of_not_mem hm, List.map_cons, ih,
        List.filter_cons_of_pos (by simpa using hm), List.eraseDups_cons, List.filter_filter]
      refine congrArg _ (congrArg _ (List.filter_congr fun name _ => ?_))
      rw [Bool.eq_iff_iff]
      simp

/-- The names that are left are distinct. -/
theorem nodup_firstOfName (seen : List String) (ms : List (Member τ)) :
    ((firstOfName seen ms).map Member.name).Nodup := by
  induction ms generalizing seen with
  | nil => exact .nil
  | cons m rest ih =>
    by_cases hm : m.name ∈ seen
    · rw [firstOfName_of_mem hm]
      exact ih seen
    · rw [firstOfName_of_not_mem hm, List.map_cons]
      refine List.nodup_cons.mpr ⟨?_, ih _⟩
      rw [names_firstOfName, List.mem_eraseDups, List.mem_filter]
      simp

/-- A member whose name has come before may as well not be there. -/
theorem firstOfName_hidden {before after : List (Member τ)}
    (h : m.name ∈ before.map Member.name ++ seen) :
    firstOfName seen (before ++ m :: after) = firstOfName seen (before ++ after) := by
  rw [firstOfName_append, firstOfName_append, firstOfName_of_mem h]

end FirstOfName

/-! ## Schemas built step by step -/

/-- A step of building a schema. -/
inductive BuildStep (τ : Type) where
  | named (typeName : String)
  | field (name slot : String) (type : τ) (rules : MemberRules)
  | embed (slot : String) (parent : Schema τ)
  | rule (name : String) (closure : Closure)

section Building

variable {τ : Type} {steps : List (BuildStep τ)} {typeName : String}

namespace BuildStep

/-- The name of the own member that the step adds. -/
def ownName? : BuildStep τ → Option String
  | .field name _ _ _ => some name
  | _ => none

/-- The slot of the embedded objects that the step adds the members of, and their schema. -/
def parent? : BuildStep τ → Option (String × Schema τ)
  | .embed slot parent => some (slot, parent)
  | _ => none

/-- Whether the step adds a named rule. -/
def isRule : BuildStep τ → Bool
  | .rule _ _ => true
  | _ => false

/-- The names of own members, in the order of the steps. -/
def ownNames (steps : List (BuildStep τ)) : List String := steps.filterMap ownName?

/-- The schemas of embedded objects with the slots of those, in the order of the steps. -/
def parents (steps : List (BuildStep τ)) : List (String × Schema τ) := steps.filterMap parent?

end BuildStep

/-- The schema under construction after one more step. -/
def SchemaBuilder.after (b : SchemaBuilder τ) : BuildStep τ → SchemaBuilder τ
  | .named typeName => b.named typeName
  | .field name slot type rules => b.field name slot type rules
  | .embed slot parent => b.embed slot parent
  | .rule name closure => b.rule name closure

/-- The schema that is built in some steps. -/
def Schema.ofSteps (typeName : String) (steps : List (BuildStep τ)) : Schema τ :=
  (steps.foldl SchemaBuilder.after (.start typeName)).build

/-- The own members of a type. -/
def Schema.ownMembers (schema : Schema τ) : List (Member τ) :=
  schema.members.filter (·.path = [])

/-- The members that a type has from embedded objects. -/
def Schema.inheritedMembers (schema : Schema τ) : List (Member τ) :=
  schema.members.filter (·.path ≠ [])

/-- The schemas of embedded objects without those members whose names have come before, be it in an
own member or in another embedded object. -/
def visibleParts (seen : List String) : List (String × Schema τ) → List (String × Schema τ)
  | [] => []
  | (slot, parent) :: rest =>
    (slot, parent.withMembers (firstOfName seen parent.members))
      :: visibleParts (parent.memberNames ++ seen) rest

theorem names_membersBelow (parts : List (String × Schema τ)) :
    (membersBelow parts).map Member.name = parts.flatMap fun p => p.2.memberNames := by
  rw [membersBelow, List.map_flatMap]
  refine congrArg (parts.flatMap ·) (funext fun p => ?_)
  rw [List.map_map]
  rfl

theorem path_of_mem_membersBelow {parts : List (String × Schema τ)} {m : Member τ}
    (h : m ∈ membersBelow parts) : m.path ≠ [] := by
  obtain ⟨p, -, hm⟩ := List.mem_flatMap.mp h
  obtain ⟨m, -, rfl⟩ := List.mem_map.mp hm
  exact List.cons_ne_nil _ _

theorem firstOfName_membersBelow (seen : List String) (parts : List (String × Schema τ)) :
    firstOfName seen (membersBelow parts) = membersBelow (visibleParts seen parts) := by
  induction parts generalizing seen with
  | nil => rfl
  | cons p rest ih =>
    rw [membersBelow, List.flatMap_cons, firstOfName_append, firstOfName_below, List.map_map]
    exact congrArg _ (ih _)

/-- What was inherited before stays in front, and does not count for anything else. -/
theorem foldl_after (b : SchemaBuilder τ) (inherited : List (Member τ)) :
    steps.foldl SchemaBuilder.after { b with inherited := inherited }
      = { steps.foldl SchemaBuilder.after b with
          inherited := inherited ++ membersBelow (BuildStep.parents steps) } := by
  induction steps generalizing b inherited with
  | nil => simp [BuildStep.parents, membersBelow]
  | cons step rest ih =>
    rw [List.foldl_cons, List.foldl_cons]
    cases step with
    | named typeName => exact ih (b.named typeName) inherited
    | field name slot type rules => exact ih (b.field name slot type rules) inherited
    | rule name closure => exact ih (b.rule name closure) inherited
    | embed slot parent =>
      refine (ih (b.embed slot parent) _).trans ?_
      rw [List.append_assoc]
      rfl

/-- Steps add own members, with the names that they give. -/
theorem own_foldl (steps : List (BuildStep τ)) (b : SchemaBuilder τ)
    (hb : ∀ m ∈ b.own, m.path = []) :
    (steps.foldl SchemaBuilder.after b).own.map Member.name
        = b.own.map Member.name ++ BuildStep.ownNames steps
      ∧ ∀ m ∈ (steps.foldl SchemaBuilder.after b).own, m.path = [] := by
  induction steps generalizing b with
  | nil => exact ⟨(List.append_nil _).symm, hb⟩
  | cons step rest ih =>
    rw [List.foldl_cons]
    cases step with
    | named typeName => exact ih (b.named typeName) hb
    | rule name closure => exact ih (b.rule name closure) hb
    | embed slot parent => exact ih (b.embed slot parent) hb
    | field name slot type rules =>
      obtain ⟨hnames, hpaths⟩ := ih (b.field name slot type rules)
        (List.forall_mem_append.mpr ⟨hb, List.forall_mem_singleton.mpr rfl⟩)
      refine ⟨hnames.trans ?_, hpaths⟩
      show (b.own ++ [_]).map Member.name ++ BuildStep.ownNames rest = _
      rw [List.map_append, List.append_assoc]
      rfl

/-- A schema that is built has the first members of each name, among own ones that go by its table,
and behind them all members of its parents. -/
theorem exists_members_ofSteps (typeName : String) (steps : List (BuildStep τ)) :
    ∃ own : List (Member τ), own.map Member.name = BuildStep.ownNames steps
      ∧ (∀ m ∈ own, m.path = [] ∧ m.table = (Schema.ofSteps typeName steps).table)
      ∧ (Schema.ofSteps typeName steps).members
        = firstOfName [] (own ++ membersBelow (BuildStep.parents steps)) := by
  let b := steps.foldl SchemaBuilder.after (.start typeName)
  obtain ⟨hnames, hpaths⟩ := own_foldl steps (.start typeName) nofun
  have hinherited : b.inherited = membersBelow (BuildStep.parents steps) :=
    congrArg SchemaBuilder.inherited (foldl_after (.start typeName) [])
  refine ⟨b.own.map fun m => { m with table := b.table }, ?_, fun m hm => ?_, ?_⟩
  · rw [List.map_map]
    exact hnames
  · obtain ⟨m', hm', rfl⟩ := List.mem_map.mp hm
    exact ⟨hpaths m' hm', rfl⟩
  · rw [← hinherited]
    rfl

/-- A member from an embedded object might as well not be there, if its name has come before. -/
theorem SchemaBuilder.build_hidden (b : SchemaBuilder τ) {front back : List (Member τ)}
    {m : Member τ} (h : m.name ∈ b.own.map Member.name ++ front.map Member.name) :
    { b with inherited := front ++ m :: back }.build
      = { b with inherited := front ++ back }.build := by
  refine congrArg (fun ms => Schema.mk _ ms _) ?_
  show firstOfName [] (_ ++ (_ ++ _)) = firstOfName [] (_ ++ (_ ++ _))
  rw [← List.append_assoc, ← List.append_assoc]
  refine firstOfName_hidden ?_
  rw [List.map_append, List.map_map, List.append_nil]
  exact h

/-- Embedding objects adds their members, and changes nothing else. -/
theorem foldl_embed (typeName : String) (before : List (BuildStep τ)) (slot : String)
    (parent : Schema τ) (after : List (BuildStep τ)) :
    (before ++ .embed slot parent :: after).foldl SchemaBuilder.after (.start typeName)
      = { after.foldl SchemaBuilder.after (before.foldl SchemaBuilder.after (.start typeName)) with
          inherited := membersBelow (BuildStep.parents before)
            ++ (parent.members.map (·.below slot) ++ membersBelow (BuildStep.parents after)) } := by
  let b := before.foldl SchemaBuilder.after (.start typeName)
  have hbefore : b.inherited = membersBelow (BuildStep.parents before) :=
    congrArg SchemaBuilder.inherited (foldl_after (.start typeName) [])
  rw [List.foldl_append, List.foldl_cons, ← List.append_assoc, ← hbefore]
  exact foldl_after b (b.inherited ++ parent.members.map (·.below slot))

theorem ownNames_filter (steps : List (BuildStep τ)) :
    BuildStep.ownNames (steps.filter (!·.isRule)) = BuildStep.ownNames steps := by
  rw [BuildStep.ownNames, List.filterMap_filter]
  refine congrArg (steps.filterMap ·) (funext fun step => ?_)
  cases step <;> rfl

theorem parents_filter (steps : List (BuildStep τ)) :
    BuildStep.parents (steps.filter (!·.isRule)) = BuildStep.parents steps := by
  rw [BuildStep.parents, List.filterMap_filter]
  refine congrArg (steps.filterMap ·) (funext fun step => ?_)
  cases step <;> rfl

namespace Schema

/-- The members of a schema that is built in some steps: which there are, and where they come
from. -/
structure ListsMembers (typeName : String) (steps : List (BuildStep τ)) : Prop where
  distinct : (ofSteps typeName steps).memberNames.Nodup
  /-- The first occurrences of the own names and then those of each parent. -/
  names : (ofSteps typeName steps).memberNames
    = (BuildStep.ownNames steps
      ++ (BuildStep.parents steps).flatMap fun p => p.2.memberNames).eraseDups
  /-- Own members come first, and go by the rules of the type. -/
  own : (ofSteps typeName steps).members
      = (ofSteps typeName steps).ownMembers ++ (ofSteps typeName steps).inheritedMembers
    ∧ ∀ m ∈ (ofSteps typeName steps).ownMembers, m.table = (ofSteps typeName steps).table
  /-- The others are those of the parents as they are, each in the slot of its parent, without those
  that are hidden. -/
  inherited : (ofSteps typeName steps).inheritedMembers
    = membersBelow (visibleParts (BuildStep.ownNames steps) (BuildStep.parents steps))
  /-- The named rules of the type have no part in them. -/
  otherRules : ∀ steps', steps'.filter (!·.isRule) = steps.filter (!·.isRule) →
    (ofSteps typeName steps').inheritedMembers = (ofSteps typeName steps).inheritedMembers
  /-- A parent's member might as well not be there if its name is that of an own member, or has come
  before in this or another parent. -/
  hidden : ∀ before slot parent front m back after, steps = before ++ .embed slot parent :: after →
    parent.members = front ++ m :: back →
    m.name ∈ BuildStep.ownNames steps
      ++ ((BuildStep.parents before).flatMap fun p => p.2.memberNames) ++ front.map Member.name →
    ofSteps typeName steps
      = ofSteps typeName (before ++ .embed slot (parent.withMembers (front ++ back)) :: after)

/-- Hidden members of a parent have no part in the schema. -/
theorem ofSteps_hidden {before after : List (BuildStep τ)} {slot : String} {parent : Schema τ}
    {front back : List (Member τ)} {m : Member τ} (hparent : parent.members = front ++ m :: back)
    (hname : m.name ∈ BuildStep.ownNames (before ++ .embed slot parent :: after)
      ++ ((BuildStep.parents before).flatMap fun p => p.2.memberNames) ++ front.map Member.name) :
    ofSteps typeName (before ++ .embed slot parent :: after)
      = ofSteps typeName (before ++ .embed slot (parent.withMembers (front ++ back)) :: after) := by
  have hown := (own_foldl (before ++ .embed slot parent :: after) (.start typeName) nofun).1
  rw [foldl_embed] at hown
  rw [ofSteps, ofSteps, foldl_embed, foldl_embed, hparent]
  simp only [withMembers, List.map_append, List.map_cons, List.append_assoc, List.cons_append]
  rw [← List.append_assoc, ← List.append_assoc]
  refine SchemaBuilder.build_hidden _ ?_
  have hfront : (front.map (·.below slot)).map Member.name = front.map Member.name := by
    rw [List.map_map]
    rfl
  rw [List.map_append, names_membersBelow, hfront, ← List.append_assoc]
  exact hown.symm ▸ hname

/-- A schema that is built has own members, which go by its table, in front of those from embedded
objects. -/
theorem exists_split_ofSteps (typeName : String) (steps : List (BuildStep τ)) :
    ∃ own : List (Member τ), (∀ m ∈ own, m.table = (ofSteps typeName steps).table)
      ∧ (ofSteps typeName steps).members
        = own ++ membersBelow (visibleParts (BuildStep.ownNames steps) (BuildStep.parents steps))
      ∧ (ofSteps typeName steps).ownMembers = own
      ∧ (ofSteps typeName steps).inheritedMembers
        = membersBelow (visibleParts (BuildStep.ownNames steps) (BuildStep.parents steps)) := by
  obtain ⟨own, hnames, hown, hmembers⟩ := exists_members_ofSteps typeName steps
  rw [firstOfName_append, hnames, List.append_nil, firstOfName_membersBelow] at hmembers
  have hfirst : ∀ m ∈ firstOfName [] own, m.path = [] := fun m hm =>
    (hown m (mem_of_mem_firstOfName hm)).1
  refine ⟨firstOfName [] own, fun m hm => (hown m (mem_of_mem_firstOfName hm)).2, hmembers, ?_, ?_⟩
  · rw [ownMembers, hmembers, List.filter_append, List.filter_eq_self.mpr (by simpa using hfirst),
      List.filter_eq_nil_iff.mpr (by simpa using fun m hm => path_of_mem_membersBelow hm),
      List.append_nil]
  · rw [inheritedMembers, hmembers, List.filter_append,
      List.filter_eq_nil_iff.mpr (by simpa using hfirst),
      List.filter_eq_self.mpr (by simpa using fun m hm => path_of_mem_membersBelow hm),
      List.nil_append]

theorem inheritedMembers_ofSteps (typeName : String) (steps : List (BuildStep τ)) :
    (ofSteps typeName steps).inheritedMembers
      = membersBelow (visibleParts (BuildStep.ownNames steps) (BuildStep.parents steps)) := by
  obtain ⟨-, -, -, -, hinherited⟩ := exists_split_ofSteps typeName steps
  exact hinherited

theorem members_eq_append (typeName : String) (steps : List (BuildStep τ)) :
    (ofSteps typeName steps).members
      = (ofSteps typeName steps).ownMembers ++ (ofSteps typeName steps).inheritedMembers := by
  obtain ⟨own, -, hmembers, hown, hinherited⟩ := exists_split_ofSteps typeName steps
  rw [hown, hinherited, hmembers]

/-- What a schema that is built in some steps lists. -/
theorem listsMembers (typeName : String) (steps : List (BuildStep τ)) :
    ListsMembers typeName steps := by
  obtain ⟨own, hnames, -, hmembers⟩ := exists_members_ofSteps typeName steps
  obtain ⟨own', htable, -, hown', -⟩ := exists_split_ofSteps typeName steps
  refine ⟨?_, ?_, ⟨members_eq_append typeName steps, ?_⟩, inheritedMembers_ofSteps typeName steps,
    ?_, ?_⟩
  · rw [memberNames, hmembers]
    exact nodup_firstOfName [] _
  · rw [memberNames, hmembers, names_firstOfName, List.map_append, hnames, names_membersBelow,
      List.filter_eq_self.mpr (by simp)]
  · rw [hown']
    exact htable
  · intro steps' hsteps
    rw [inheritedMembers_ofSteps, inheritedMembers_ofSteps, ← ownNames_filter, ← parents_filter,
      hsteps, ownNames_filter, parents_filter]
  · rintro before slot parent front m back after rfl hparent hname
    exact ofSteps_hidden hparent hname

end Schema

/-! ## Runs over schemas built step by step -/

/-- The member `m'` does to an object and a store what the member `m` does by itself to the object
that sits in a slot. -/
structure Member.Projects (o : Options) (f : τ → Codec) (slot : String) (m m' : Member τ) :
    Prop where
  declaringType : m'.declaringType = m.declaringType
  table : m'.table = m.table
  written : ∀ {σ : Type} [Store σ] {x y : Object} (s : σ), x.embedded? slot = some y →
    (m'.mapType f).write o x s = (m.mapType f).write o y s
  read : ∀ {σ : Type} [Store σ] (source : σ) {x y : Object}, x.embedded? slot = some y →
    (m'.mapType f).read o source x
      = (((m.mapType f).read o source y).1, x.set slot (.object ((m.mapType f).read o source y).2))
  otherSlots : ∀ {σ : Type} [Store σ] (source : σ) (x : Object) (slot' : String), slot' ≠ slot →
    ((m'.mapType f).read o source x).2.get? slot' = x.get? slot'

theorem Member.projects_below (o : Options) (f : τ → Codec) (slot : String) (m : Member τ) :
    Member.Projects o f slot m (m.below slot) where
  declaringType := rfl
  table := rfl
  written s h := by
    rw [← Object.part_of_embedded? h]
    exact (m.mapType f).write_within [slot] o _ s
  read source _ _ h := Member.read_below h (m.mapType f) source
  otherSlots source x slot' hne := by
    have hread := (m.mapType f).read_within [slot] o x source
    show (((m.mapType f).within [slot]).read o source x).2.get? slot' = _
    rw [hread]
    cases hembedded : x.embedded? slot with
    | none => rw [Object.updatePart, hembedded]
    | some y =>
      rw [Object.updatePart_of_embedded? hembedded]
      exact Object.get?_set_of_ne _ hne

namespace Schema

/-- What runs over a schema that is built in some steps do. -/
structure RunsMembers (typeName : String) (steps : List (BuildStep τ)) (f : τ → Codec)
    (o : Options) : Prop where
  /-- Each inherited member does what a member of a parent does in the embedded object. -/
  projected : ∀ m' ∈ (ofSteps typeName steps).inheritedMembers,
    ∃ slot parent m, (slot, parent) ∈ BuildStep.parents steps ∧ m ∈ parent.members
      ∧ Member.Projects o f slot m m'
  /-- However deep the object is embedded, a member does what its own type has it do there. -/
  writtenAtDepth : ∀ m ∈ (ofSteps typeName steps).members,
    ∀ {σ : Type} [Store σ] (x : Object) (s : σ),
    (m.mapType f).write o x s = (m.declared.mapType f).write o (x.part m.path) s
  readAtDepth : ∀ m ∈ (ofSteps typeName steps).members,
    ∀ {σ : Type} [Store σ] (source : σ) (x : Object),
    (m.mapType f).read o source x
      = (((m.declared.mapType f).read o source (x.part m.path)).1,
        x.updatePart (fun part => ((m.declared.mapType f).read o source part).2) m.path)
  /-- Writing an object writes its own members, and then each embedded object by its own schema. -/
  written : ∀ {σ : Type} [Store σ] (x : Object) (s : σ),
    ((ofSteps typeName steps).mapType f).write o x s
      = match (((ofSteps typeName steps).withMembers (ofSteps typeName steps).ownMembers).mapType
          f).write o x s with
        | (.error e, s) => (.error e, s)
        | (.ok _, s) => writeParts o x ((visibleParts (BuildStep.ownNames steps)
            (BuildStep.parents steps)).map fun p => (p.1, p.2.mapType f)) s
  /-- Reading an object reads its own members, and then each embedded object by its own schema. -/
  read : ∀ {σ : Type} [Store σ] (source : σ) (x x₁ : Object) (r : Result Unit),
    (((ofSteps typeName steps).withMembers (ofSteps typeName steps).ownMembers).mapType f).read o
      source x = (r, x₁) →
    (∀ p ∈ BuildStep.parents steps, (x₁.embedded? p.1).isSome) →
    ((ofSteps typeName steps).mapType f).read o source x
      = match r with
        | .error e => (.error e, x₁)
        | .ok _ => readParts o source ((visibleParts (BuildStep.ownNames steps)
            (BuildStep.parents steps)).map fun p => (p.1, p.2.mapType f)) x₁

theorem slots_visibleParts (seen : List String) (parts : List (String × Schema τ)) :
    (visibleParts seen parts).map Prod.fst = parts.map Prod.fst := by
  induction parts generalizing seen with
  | nil => rfl
  | cons p rest ih => exact congrArg (p.1 :: ·) (ih _)

theorem map_mapType_membersBelow (f : τ → Codec) (parts : List (String × Schema τ)) :
    (membersBelow parts).map (·.mapType f)
      = membersBelow (parts.map fun p => (p.1, p.2.mapType f)) := by
  rw [membersBelow, membersBelow, List.map_flatMap, List.flatMap_map]
  refine congrArg (parts.flatMap ·) (funext fun p => ?_)
  simp only [mapType, List.map_map]
  rfl

/-- What runs over a schema do that is built in some steps. -/
theorem runsMembers (typeName : String) (steps : List (BuildStep τ)) (f : τ → Codec) (o : Options) :
    RunsMembers typeName steps f o := by
  have hinherited := inheritedMembers_ofSteps typeName steps
  let parts := (visibleParts (BuildStep.ownNames steps) (BuildStep.parents steps)).map
    fun p => (p.1, p.2.mapType f)
  have hmembers : ((ofSteps typeName steps).mapType f).members.filter o.includes
      = ((ofSteps typeName steps).ownMembers.map (·.mapType f)).filter o.includes
        ++ (membersBelow parts).filter o.includes := by
    show ((ofSteps typeName steps).members.map _).filter _ = _
    rw [members_eq_append, List.map_append, List.filter_append, hinherited,
      map_mapType_membersBelow]
  have hdeclared : ∀ m : Member τ, (m.declared.mapType f).within m.path = m.mapType f := fun m =>
    congrArg (·.mapType f) m.declared_within
  refine ⟨?_, ?_, ?_, ?_, ?_⟩
  · intro m' hm'
    rw [hinherited, ← firstOfName_membersBelow] at hm'
    obtain ⟨⟨slot, parent⟩, hparent, hm'⟩ := List.mem_flatMap.mp (mem_of_mem_firstOfName hm')
    obtain ⟨m, hm, rfl⟩ := List.mem_map.mp hm'
    exact ⟨slot, parent, m, hparent, hm, Member.projects_below o f slot m⟩
  · intro m _ σ _ x s
    rw [← hdeclared m]
    exact (m.declared.mapType f).write_within m.path o x s
  · intro m _ σ _ source x
    rw [← hdeclared m, Object.updatePart_eq_const]
    exact (m.declared.mapType f).read_within m.path o x source
  · intro σ _ x s
    rw [Schema.write, hmembers, writeMembers_append]
    simp only [writeMembers_membersBelow]
    rfl
  · intro σ _ source x x₁ r hown hslots
    have hrun : readMembers o source
        (((ofSteps typeName steps).ownMembers.map (·.mapType f)).filter o.includes) x
          = (r, x₁) := hown
    rw [Schema.read, hmembers, readMembers_append, hrun]
    cases r with
    | error e => rfl
    | ok _ =>
      refine readMembers_membersBelow (fun p hp => ?_) source
      obtain ⟨q, hq, rfl⟩ := List.mem_map.mp hp
      have hslot : q.1 ∈ (BuildStep.parents steps).map Prod.fst := by
        rw [← slots_visibleParts (BuildStep.ownNames steps)]
        exact List.mem_map_of_mem hq
      obtain ⟨p', hp', heq⟩ := List.mem_map.mp hslot
      exact heq ▸ hslots p' hp'

/-- Inheritance is faithful projection. The members of a schema that is built of own members and
embedded objects, to any depth, are the first ones of each name, own ones first; in a run, those of
an embedded object do to it what its own schema has them do, and to nothing else. -/
theorem inherits (typeName : String) (steps : List (BuildStep τ)) (f : τ → Codec) (o : Options) :
    ListsMembers typeName steps ∧ RunsMembers typeName steps f o :=
  ⟨listsMembers typeName steps, runsMembers typeName steps f o⟩

end Schema

end Building

/-! ## Trucks

A thing has a name and a weight. A vehicle is a thing with a plate, which goes by the name of name.
A truck is a vehicle with a driver, who has a name and a phone.
-/

namespace Example

/-- The schema of things. -/
def thingSchema : Schema MemberType :=
  .ofSteps "Thing" [.field "name" "name" .string {}, .field "weight" "weight" (.integer .u16) {}]

/-- The schema of vehicles. -/
def vehicleSchema : Schema MemberType :=
  .ofSteps "Vehicle" [.embed "thing" thingSchema, .field "name" "plate" .string {}]

/-- The schema of drivers. -/
def driverSchema : Schema MemberType :=
  .ofSteps "Driver" [.field "name" "name" .string {}, .field "phone" "phone" .string {}]

/-- The schema of trucks. -/
def truckSchema : Schema MemberType :=
  .ofSteps "Truck" [.embed "vehicle" vehicleSchema, .embed "driver" driverSchema,
    .field "load" "load" (.integer .u16) {}]

/-- The plate hides the name of the thing in the vehicle, and that of the driver. -/
example : truckSchema.members.map (fun m => (m.name, m.place, m.declaringType))
    = [("load", ["load"], "Truck"), ("name", ["vehicle", "plate"], "Vehicle"),
      ("weight", ["vehicle", "thing", "weight"], "Thing"),
      ("phone", ["driver", "phone"], "Driver")] := by decide

end Example

end ConfigBinding
