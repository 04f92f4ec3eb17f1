import ConfigBinding.Proofs.Bridge.Typing
import ConfigBinding.Proofs.Sequence
import ConfigBinding.Schema.TypeTable
import Mathlib.Data.List.Nodup

/-!
# Objects and their types

`Datum.HasType` says which data belong to a type of members, given the object types that a table
has. An object of a type has the slots of the type, in their order, and a datum of the slot's type
in each of them.

A chain of slots leads from an object to what sits inside it. `ObjectType.Leads` follows the chain
through the types alone, so it says at which places of an object there is something to be found
(`Object.exists_get?_part`), and what may be put there without changing the type of the object
(`Object.hasType_updatePart`).
-/

namespace ConfigBinding

open Numeric

/-- Which data belong to a type of members. -/
inductive Datum.HasType (ts : TypeTable) : MemberType → Datum → Prop where
  | bool (b : Bool) : HasType ts .bool (.bool b)
  | integer {type : IntType} {n : Int} (h : type.contains n = true) :
    HasType ts (.integer type) (.integer n)
  | single (x : Binary32) : HasType ts .single (.single x)
  | double (x : Binary64) : HasType ts .double (.double x)
  | char (c : Char) : HasType ts .char (.char c)
  | string (s : String) : HasType ts .string (.string s)
  | dateTime (t : Time.Instant) : HasType ts .dateTime (.dateTime t)
  | bigInt (n : Int) : HasType ts .bigInt (.bigInt n)
  | value (v : Value) : HasType ts .value (.value v)
  | tree (t : Tree) : HasType ts .tree (.tree t)
  | nothing {t : MemberType} : HasType ts (.option t) .nothing
  | just {t : MemberType} {d : Datum} (h : HasType ts t d) : HasType ts (.option t) (.just d)
  | list {t : MemberType} {ds : List Datum} (h : ∀ d ∈ ds, HasType ts t d) :
    HasType ts (.list t) (.list ds)
  /-- The keys are distinct, and stand in an order in which such a map may hold them. -/
  | map {kind : MapKind} {t : MemberType} {entries : List (String × Datum)}
    (hdistinct : Keyed.Distinct entries) (horder : kind.arrange entries = entries)
    (h : ∀ p ∈ entries, HasType ts t p.2) : HasType ts (.map kind t) (.map kind entries)
  | described {type : Bridge.DataType} {data : Bridge.Data} (h : Bridge.Fits type data) :
    HasType ts (.described type) (.described type data)
  | object {n : String} {t : ObjectType MemberType} {x : Object} (hfind : ts.find? n = some t)
    (hname : x.typeName = n) (hkeys : Keyed.keys x.slots = t.slots.map Slot.name)
    (hslots : ∀ s ∈ t.slots, ∀ d, x.get? s.name = some d → HasType ts s.type d) :
    HasType ts (.object n) (.object x)

/-- A chain of slots leads, through objects, to a slot of a type. -/
inductive ObjectType.Leads (ts : TypeTable) :
    ObjectType MemberType → List String → String → MemberType → Prop where
  | here {t : ObjectType MemberType} {s : Slot MemberType} (hs : s ∈ t.slots) :
    Leads ts t [] s.name s.type
  | inside {t sub : ObjectType MemberType} {s : Slot MemberType} {n : String} {path : List String}
    {slot : String} {type : MemberType} (hs : s ∈ t.slots) (htype : s.type = .object n)
    (hfind : ts.find? n = some sub) (h : Leads ts sub path slot type) :
    Leads ts t (s.name :: path) slot type

/-- An object type that makes sense in a table: its slots can be told apart, a fresh object belongs
to the type, and its members are somewhere in its objects. -/
structure ObjectType.IsSound (ts : TypeTable) (t : ObjectType MemberType) : Prop where
  distinct : (t.slots.map Slot.name).Nodup
  initial : ∀ s ∈ t.slots, s.initial.HasType ts s.type
  leads : ∀ m ∈ t.schema.members, t.Leads ts m.path m.slot m.type

/-- A table all of whose object types make sense. -/
def TypeTable.IsSound (ts : TypeTable) : Prop := ∀ t ∈ ts.types, t.IsSound ts

theorem TypeTable.mem_of_find? {ts : TypeTable} {n : String} {t : ObjectType MemberType}
    (h : ts.find? n = some t) : t ∈ ts.types := List.mem_of_find?_eq_some h

/-! ## How deep objects are nested -/

mutual

/-- How many objects a datum holds inside one another. -/
def Datum.depth : Datum → Nat
  | .just content => content.depth
  | .list items => itemsDepth items
  | .map _ entries => slotsDepth entries
  | .object ⟨_, slots⟩ => slotsDepth slots + 1
  | _ => 0

/-- The depth of the deepest item. -/
def itemsDepth : List Datum → Nat
  | [] => 0
  | d :: rest => max d.depth (itemsDepth rest)

/-- The depth of the deepest datum under a name. -/
def slotsDepth : List (String × Datum) → Nat
  | [] => 0
  | (_, d) :: rest => max d.depth (slotsDepth rest)

end

/-- How many objects an object holds inside one another, itself not counted. -/
def Object.depth (x : Object) : Nat := slotsDepth x.slots

theorem depth_le_itemsDepth {ds : List Datum} {d : Datum} (h : d ∈ ds) :
    d.depth ≤ itemsDepth ds := by
  induction ds with
  | nil => simp at h
  | cons d' rest ih =>
    rw [itemsDepth]
    rcases List.mem_cons.mp h with rfl | hmem
    · exact Nat.le_max_left _ _
    · exact Nat.le_trans (ih hmem) (Nat.le_max_right _ _)

theorem depth_le_slotsDepth {entries : List (String × Datum)} {p : String × Datum}
    (h : p ∈ entries) : p.2.depth ≤ slotsDepth entries := by
  induction entries with
  | nil => simp at h
  | cons q rest ih =>
    obtain ⟨name, d⟩ := q
    rw [slotsDepth]
    rcases List.mem_cons.mp h with rfl | hmem
    · exact Nat.le_max_left _ _
    · exact Nat.le_trans (ih hmem) (Nat.le_max_right _ _)

theorem itemsDepth_eq_zero {ds : List Datum} (h : ∀ d ∈ ds, d.depth = 0) : itemsDepth ds = 0 := by
  induction ds with
  | nil => rfl
  | cons d rest ih =>
    obtain ⟨hd, hrest⟩ := List.forall_mem_cons.mp h
    rw [itemsDepth, hd, ih hrest]
    rfl

theorem slotsDepth_eq_zero {entries : List (String × Datum)} (h : ∀ p ∈ entries, p.2.depth = 0) :
    slotsDepth entries = 0 := by
  induction entries with
  | nil => rfl
  | cons p rest ih =>
    obtain ⟨hp, hrest⟩ := List.forall_mem_cons.mp h
    rw [slotsDepth, hp, ih hrest]
    rfl

theorem Datum.depth_object (x : Object) : (Datum.object x).depth = x.depth + 1 := by
  obtain ⟨typeName, slots⟩ := x
  rw [Datum.depth, Object.depth]

namespace Object

variable {x : Object}

theorem depth_get_le (slot : String) : (x.get slot).depth ≤ x.depth := by
  rw [get, get?]
  cases h : Keyed.get? x.slots slot with
  | none => exact Nat.zero_le _
  | some d => exact depth_le_slotsDepth (Keyed.mem_of_get? h)

theorem embedded?_eq_some {slot : String} {sub : Object} :
    x.embedded? slot = some sub ↔ x.get? slot = some (.object sub) := by
  rw [embedded?]
  constructor
  · intro h
    split at h
    · rename_i sub' hsub
      rw [hsub, Option.some.inj h]
    · cases h
  · intro h
    rw [h]

/-- Nothing inside an object is nested deeper than the object. -/
theorem depth_part_le (path : List String) : (x.part path).depth ≤ x.depth := by
  induction path generalizing x with
  | nil => exact Nat.le_refl _
  | cons slot rest ih =>
    rw [part]
    cases h : x.embedded? slot with
    | none => exact Nat.zero_le _
    | some sub =>
      have hget : x.get slot = .object sub := by
        rw [get, embedded?_eq_some.mp h]
        rfl
      have hslot := depth_get_le (x := x) slot
      rw [hget, Datum.depth_object] at hslot
      exact Nat.le_trans ih (Nat.le_trans (Nat.le_succ _) hslot)

end Object

theorem Member.depth_get_le {τ : Type} (m : Member τ) (x : Object) : (m.get x).depth ≤ x.depth :=
  Nat.le_trans (Object.depth_get_le m.slot) (Object.depth_part_le m.path)

/-! ## Chains of slots through typed objects -/

namespace Object

variable {ts : TypeTable} {n : String} {t : ObjectType MemberType} {x : Object}

/-- What it is for an object to belong to a type that the table has. -/
theorem hasType_iff (hfind : ts.find? n = some t) :
    (Datum.object x).HasType ts (.object n) ↔ x.typeName = n
      ∧ Keyed.keys x.slots = t.slots.map Slot.name
      ∧ ∀ s ∈ t.slots, ∀ d, x.get? s.name = some d → d.HasType ts s.type := by
  constructor
  · intro h
    cases h with
    | object hfind' hname hkeys hslots =>
      obtain rfl := Option.some.inj (hfind.symm.trans hfind')
      exact ⟨hname, hkeys, hslots⟩
  · rintro ⟨hname, hkeys, hslots⟩
    exact .object hfind hname hkeys hslots

/-- Data of an object type are objects. -/
theorem exists_of_hasType {d : Datum} (h : d.HasType ts (.object n)) : ∃ x, d = .object x := by
  cases h with
  | object => exact ⟨_, rfl⟩

/-- A slot of the type holds a datum of the slot's type. -/
theorem exists_get? (hfind : ts.find? n = some t) (hx : (Datum.object x).HasType ts (.object n))
    {s : Slot MemberType} (hs : s ∈ t.slots) :
    ∃ d, x.get? s.name = some d ∧ d.HasType ts s.type := by
  obtain ⟨-, hkeys, hslots⟩ := (hasType_iff hfind).mp hx
  have hmem : s.name ∈ Keyed.keys x.slots := hkeys ▸ List.mem_map_of_mem hs
  obtain ⟨d, hd⟩ := Option.isSome_iff_exists.mp ((Keyed.contains_iff_mem_keys _ _).mpr hmem)
  exact ⟨d, hd, hslots s hs d hd⟩

/-- A slot of an object type holds an object. -/
theorem exists_embedded? (hfind : ts.find? n = some t)
    (hx : (Datum.object x).HasType ts (.object n)) {s : Slot MemberType} (hs : s ∈ t.slots)
    {n' : String} (htype : s.type = .object n') :
    ∃ sub, x.embedded? s.name = some sub ∧ (Datum.object sub).HasType ts (.object n') := by
  obtain ⟨d, hget, hd⟩ := exists_get? hfind hx hs
  rw [htype] at hd
  obtain ⟨sub, rfl⟩ := exists_of_hasType hd
  exact ⟨sub, embedded?_eq_some.mpr hget, hd⟩

/-- At the end of a chain through the type there is a datum of the type that the chain leads to. -/
theorem exists_get?_part (hfind : ts.find? n = some t)
    (hx : (Datum.object x).HasType ts (.object n)) {path : List String} {slot : String}
    {type : MemberType} (h : t.Leads ts path slot type) :
    ∃ d, (x.part path).get? slot = some d ∧ d.HasType ts type := by
  induction h generalizing n x with
  | here hs => exact exists_get? hfind hx hs
  | inside hs htype hsub _ ih =>
    obtain ⟨sub, hembedded, hsubtype⟩ := exists_embedded? hfind hx hs htype
    rw [part, hembedded]
    exact ih hsub hsubtype

/-- An object keeps its type when a slot gets another datum of the slot's type. -/
theorem hasType_set (hsound : t.IsSound ts) (hfind : ts.find? n = some t)
    (hx : (Datum.object x).HasType ts (.object n)) {s : Slot MemberType} (hs : s ∈ t.slots)
    {d : Datum} (hd : d.HasType ts s.type) :
    (Datum.object (x.set s.name d)).HasType ts (.object n) := by
  obtain ⟨hname, hkeys, hslots⟩ := (hasType_iff hfind).mp hx
  have hmem : s.name ∈ Keyed.keys x.slots := hkeys ▸ List.mem_map_of_mem hs
  refine (hasType_iff hfind).mpr ⟨hname, ?_, ?_⟩
  · rw [← hkeys, set, Keyed.keys_insert, if_pos hmem]
  · intro s' hs' d' hd'
    by_cases hne : s'.name = s.name
    · -- the names of slots are distinct, so it is the slot itself
      obtain rfl := List.inj_on_of_nodup_map hsound.distinct hs' hs hne
      rw [get?, set, Keyed.get?_insert_self] at hd'
      exact Option.some.inj hd' ▸ hd
    · rw [get?, set, Keyed.get?_insert_of_ne _ _ hne] at hd'
      exact hslots s' hs' d' hd'

/-- An object keeps its type when a place inside gets another datum of the place's type. -/
theorem hasType_updatePart (hts : ts.IsSound) (hfind : ts.find? n = some t)
    (hx : (Datum.object x).HasType ts (.object n)) {path : List String} {slot : String}
    {type : MemberType} (h : t.Leads ts path slot type) {d : Datum} (hd : d.HasType ts type) :
    (Datum.object (x.updatePart (·.set slot d) path)).HasType ts (.object n) := by
  induction h generalizing n x with
  | here hs => exact hasType_set (hts _ (TypeTable.mem_of_find? hfind)) hfind hx hs hd
  | inside hs htype hsub _ ih =>
    obtain ⟨sub, hembedded, hsubtype⟩ := exists_embedded? hfind hx hs htype
    rw [updatePart, hembedded]
    apply hasType_set (hts _ (TypeTable.mem_of_find? hfind)) hfind hx hs
    rw [htype]
    exact ih hsub hsubtype hd

end Object

/-- An object whose slots are those of a sound type, one by one, belongs to the type. -/
theorem Object.hasType_of_slots {ts : TypeTable} {n : String} {t : ObjectType MemberType}
    {x : Object} (hsound : t.IsSound ts) (hfind : ts.find? n = some t) (hname : x.typeName = n)
    (hslots : List.Forall₂ (fun p s => p.1 = s.name ∧ p.2.HasType ts s.type) x.slots t.slots) :
    (Datum.object x).HasType ts (.object n) := by
  have hkeys : Keyed.keys x.slots = t.slots.map Slot.name :=
    forall₂_eq_iff_map_eq.mp (hslots.imp fun _ _ h => h.1)
  have hdistinct : Keyed.Distinct x.slots := by
    rw [Keyed.Distinct, hkeys]
    exact hsound.distinct
  refine (hasType_iff hfind).mpr ⟨hname, hkeys, fun s hs d hd => ?_⟩
  obtain ⟨p, hp, hps⟩ := exists_of_forall₂ hslots hs
  have hget : x.get? s.name = some p.2 := hps.1 ▸ Keyed.get?_of_mem hdistinct hp
  rw [← Option.some.inj (hget.symm.trans hd)]
  exact hps.2

/-- A fresh object of a sound type belongs to the type. -/
theorem ObjectType.hasType_fresh {ts : TypeTable} {n : String} {t : ObjectType MemberType}
    (hsound : t.IsSound ts) (hfind : ts.find? n = some t) :
    (Datum.object t.fresh).HasType ts (.object n) := by
  apply Object.hasType_of_slots hsound hfind (TypeTable.name_of_find? hfind)
  rw [fresh, List.forall₂_map_left_iff, List.forall₂_same]
  exact fun s hs => ⟨rfl, hsound.initial s hs⟩

end ConfigBinding
