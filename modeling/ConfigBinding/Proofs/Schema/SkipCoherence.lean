import ConfigBinding.Proofs.Schema.NativeForm
import ConfigBinding.Proofs.Schema.RoundTrip
import ConfigBinding.Proofs.Schema.WriteFrame

/-!
# Skipping in both directions

Members whose only rules skip them, in both directions, are left out of the tree or written as they
are. When the tree is read into the object that it was written from, a member that has an entry gets
its own datum back, or is skipped; either way nothing changes. A member without an entry is skipped
as well if one of its rules lets it be missing: the one that always skips, or the one that skips what
is null, since a missing entry counts as null. But a missing entry is not empty. So a member that was
left out because it was empty, and that nothing lets be missing, is reported as missing
(`Member.IsLost`).
-/

namespace ConfigBinding

/-! ## Rules that only skip -/

namespace SkipIf

/-- Whether a datum is left out when it is written. -/
def leavesOut (d : Datum) : SkipIf → Bool
  | .always => true
  | .isNull => d.isNull
  | .isEmpty => d.isEmpty? = some true
  | _ => false

/-- Whether an entry is passed over when it is read. -/
def passesOver (e : Entry) : SkipIf → Bool
  | .always => true
  | .isNull => e.isNull || e.isAbsent
  | .isEmpty => e.isEmpty
  | _ => false

end SkipIf

/-- The skip rules for both directions. -/
def MemberRules.generalSkips (r : MemberRules) : List SkipIf := r.blocks.flatMap (·.skips)

/-- Rules that do nothing but skip the member, in both directions: always, or if it is null, or if
it is empty. They may still give a key and a comment. -/
structure MemberRules.SkipsOnly (r : MemberRules) : Prop where
  skips : ∀ direction, r.skipRules direction = r.generalSkips
  conditions : ∀ w ∈ r.generalSkips, w = .always ∨ w = .isNull ∨ w = .isEmpty
  defaults : r.defaults = []
  asserts : r.asserts = []
  stays : r.isTransient = false

/-- The member is left out of the tree because it is empty, and no rule of it lets an entry be
missing. -/
structure Member.IsLost {τ : Type} (m : Member τ) (x : Object) : Prop where
  rule : .isEmpty ∈ m.rules.generalSkips
  empty : (m.get x).isEmpty? = some true
  never : .always ∉ m.rules.generalSkips
  null : .isNull ∉ m.rules.generalSkips

/-- When no condition for skipping fails, the member is skipped if one of them applies. -/
theorem MemberRules.shouldSkip_eq_any {r : MemberRules} {direction : Direction}
    {seen : Observation} {x : Object} {scope : Scope} {f : SkipIf → Bool}
    (h : ∀ w ∈ r.skipRules direction, w.applies direction seen x scope = .ok (f w)) :
    r.shouldSkip direction seen x scope = .ok ((r.skipRules direction).any f) := by
  have happlied : ((r.skipRules direction).mapM fun w => w.applies direction seen x scope)
      = .ok ((r.skipRules direction).map f) :=
    Result.mapM_eq_ok.mpr (List.forall₂_map_right_iff.mpr (List.forall₂_same.mpr h))
  refine Result.bind_eq_ok.mpr ⟨_, happlied, ?_⟩
  rw [List.any_map]
  rfl

/-! ## Data without objects -/

namespace MemberType

/-- Whether there are no objects in the data of the type. -/
def isFlat : MemberType → Bool
  | .option t | .list t | .map _ t => t.isFlat
  | .object _ => false
  | _ => true

variable {ts : TypeTable} {t : MemberType} {d : Datum}

theorem depth_of_isFlat (h : d.HasType ts t) (ht : t.isFlat = true) : d.depth = 0 := by
  induction h with
  | just _ ih => exact ih ht
  | list _ ih => exact itemsDepth_eq_zero fun d hd => ih d hd ht
  | map _ _ _ ih => exact slotsDepth_eq_zero fun p hp => ih p hp ht
  | object => cases ht
  | _ => rfl

/-- Data without objects know whether they are empty, unless they are described. -/
theorem not_hidesEmptiness (h : d.HasType ts t) (ht : t.isFaithful = true)
    (hflat : t.isFlat = true) : ¬ d.HidesEmptiness := by
  induction h with
  | just _ ih =>
    intro hhides
    cases hhides with
    | just hcontent => exact ih (Bool.and_eq_true_iff.mp ht).2 hflat hcontent
  | described => cases ht
  | object => cases hflat
  | _ => nofun

end MemberType

theorem Datum.isEmpty?_of_isNull {d : Datum} (h : d.isNull = true) : d.isEmpty? = none := by
  cases d with
  | nothing => rfl
  | value v =>
    cases v with
    | null => rfl
    | _ => cases h
  | _ => cases h

/-! ## One member -/

section Members

variable {o : Options} {x : Object} {m : Member Codec} {v : Value} {tree : Tree}

/-- What is observed of a member that is written is empty just if the member's datum is. -/
theorem Member.isEmpty_observed (hnative : m.type.toNative o (m.get x) = .ok v)
    (hempty : (m.get x).isEmpty? = none → v.isEmpty? ≠ some true) :
    (m.observed x (m.ownNative o x)).isEmpty = .ok (decide ((m.get x).isEmpty? = some true)) := by
  have hown : (m.ownNative o x).get = .ok v := Result.mapError_eq_ok.mpr hnative
  rw [observed, Observation.ofDatum]
  cases hnull : (m.get x).isNull with
  | true =>
    rw [Datum.isEmpty?_of_isNull hnull]
    rfl
  | false =>
    cases hd : (m.get x).isEmpty? with
    | some b => cases b <;> rfl
    | none =>
      rw [Observation.isEmpty, hown]
      exact congrArg Except.ok (decide_eq_false (hempty hd))

/-- Whether a member is left out when it is written depends on its datum alone. -/
theorem Member.skipsWriting_eq (hrules : m.rules.SkipsOnly)
    (hnative : m.type.toNative o (m.get x) = .ok v)
    (hempty : (m.get x).isEmpty? = none → v.isEmpty? ≠ some true) :
    m.skipsWriting o x = .ok (m.rules.generalSkips.any (·.leavesOut (m.get x))) := by
  rw [← hrules.skips .writing]
  refine MemberRules.shouldSkip_eq_any fun w hw => ?_
  rw [hrules.skips] at hw
  rcases hrules.conditions w hw with rfl | rfl | rfl
  · rfl
  · exact congrArg Except.ok (Bool.or_false _)
  · exact isEmpty_observed hnative hempty

/-- Whether a member is passed over when it is read depends on its entry alone. -/
theorem Member.skipsReading_eq (hrules : m.rules.SkipsOnly) :
    m.skipsReading o tree x = .ok (m.rules.generalSkips.any (·.passesOver (m.entry o tree))) := by
  rw [← hrules.skips .reading]
  refine MemberRules.shouldSkip_eq_any fun w hw => ?_
  rw [hrules.skips] at hw
  rcases hrules.conditions w hw with rfl | rfl | rfl <;> rfl

/-- A member that always has a native form is left out or written. -/
theorem Member.toWrite_of_skipsOnly (ho : o.registry.IsBuiltin) (hrules : m.rules.SkipsOnly)
    (hnative : m.type.toNative o (m.get x) = .ok v)
    (hempty : (m.get x).isEmpty? = none → v.isEmpty? ≠ some true) :
    m.toWrite o x = .ok (if m.rules.generalSkips.any (·.leavesOut (m.get x)) then none
      else some (m.get x, v)) := by
  have hskip := skipsWriting_eq hrules hnative hempty
  cases hout : m.rules.generalSkips.any (·.leavesOut (m.get x)) with
  | true =>
    rw [hout] at hskip
    exact toWrite_of_skipsWriting hskip
  | false =>
    rw [hout] at hskip
    refine toWrite_eq_own hskip hrules.defaults hrules.asserts ?_
    exact Result.bind_eq_ok.mpr ⟨v, hnative, Registry.write_eq ho _ _⟩

/-- When the tree holds a member, reading it into the object that it was written from changes
nothing. -/
theorem Member.read_of_heldIn (hrules : m.rules.SkipsOnly) (hheld : m.HeldIn o x tree)
    (hat : x.at? m.path m.slot = some (m.get x)) : m.read o tree x = (.ok (), x) := by
  have hskip : m.skipsReading o tree x = .ok _ := skipsReading_eq hrules
  rw [read]
  cases hover : m.rules.generalSkips.any (·.passesOver (m.entry o tree)) with
  | true =>
    rw [hover] at hskip
    rw [toRead_of_skipsReading hskip]
  | false =>
    rw [hover] at hskip
    rw [toRead_eq_convert hskip hrules.defaults hrules.asserts, hheld.convert_eq]
    -- the member gets the datum that it has
    exact congrArg (Prod.mk _) (Object.updatePart_of_at? hat)

/-- A member without an entry is passed over if one of its rules lets an entry be missing. -/
theorem Member.read_of_passesOver (hrules : m.rules.SkipsOnly) (hentry : m.entry o tree = .absent)
    (hmissing : .always ∈ m.rules.generalSkips ∨ .isNull ∈ m.rules.generalSkips) :
    m.read o tree x = (.ok (), x) := by
  have hover : m.rules.generalSkips.any (·.passesOver .absent) = true := by
    rcases hmissing with h | h
    · exact List.any_eq_true.mpr ⟨_, h, rfl⟩
    · exact List.any_eq_true.mpr ⟨_, h, rfl⟩
  have hskip : m.skipsReading o tree x = .ok _ := skipsReading_eq hrules
  rw [hentry, hover] at hskip
  rw [read, toRead_of_skipsReading hskip]

/-- A member that is lost is reported as missing. -/
theorem Member.read_of_isLost (hrules : m.rules.SkipsOnly) (hentry : m.entry o tree = .absent)
    (hlost : m.IsLost x) :
    m.read o tree x = (.error (.missingEntry (m.key o) m.name m.declaringType), x) := by
  have hover : m.rules.generalSkips.any (·.passesOver .absent) = false := by
    refine List.any_eq_false.mpr fun w hw => ?_
    rcases hrules.conditions w hw with rfl | rfl | rfl
    · exact absurd hw hlost.never
    · exact absurd hw hlost.null
    · nofun
  have hskip : m.skipsReading o tree x = .ok _ := skipsReading_eq hrules
  rw [hentry, hover] at hskip
  rw [read, toRead_eq_convert hskip hrules.defaults hrules.asserts, hentry]
  rfl

end Members

section Lost

variable {τ : Type} {m : Member τ} {x : Object}

/-- A member that is left out is lost, or one of its rules lets an entry be missing. -/
theorem Member.isLost_or_of_leavesOut (hrules : m.rules.SkipsOnly)
    (hout : m.rules.generalSkips.any (·.leavesOut (m.get x)) = true) :
    m.IsLost x ∨ .always ∈ m.rules.generalSkips ∨ .isNull ∈ m.rules.generalSkips := by
  by_cases hmissing : .always ∈ m.rules.generalSkips ∨ .isNull ∈ m.rules.generalSkips
  · exact .inr hmissing
  · obtain ⟨halways, hnull⟩ := not_or.mp hmissing
    obtain ⟨w, hw, hd⟩ := List.any_eq_true.mp hout
    rcases hrules.conditions w hw with rfl | rfl | rfl
    · exact absurd hw halways
    · exact absurd hw hnull
    · exact .inl ⟨hw, of_decide_eq_true hd, halways, hnull⟩

theorem Member.leavesOut_of_isLost (h : m.IsLost x) :
    m.rules.generalSkips.any (·.leavesOut (m.get x)) = true :=
  List.any_eq_true.mpr ⟨_, h.rule, decide_eq_true h.empty⟩

theorem Member.isLost_mapType {υ : Type} {f : τ → υ} : (m.mapType f).IsLost x ↔ m.IsLost x :=
  ⟨fun h => ⟨h.rule, h.empty, h.never, h.null⟩, fun h => ⟨h.rule, h.empty, h.never, h.null⟩⟩

end Lost

/-! ## Runs -/

/-- A run whose members all leave the object as it is does so, too. -/
theorem readMembers_eq_self {σ : Type} [Store σ] {o : Options} {source : σ} {x : Object}
    {ms : List (Member Codec)} (h : ∀ m ∈ ms, m.read o source x = (.ok (), x)) :
    readMembers o source ms x = (.ok (), x) := by
  induction ms with
  | nil => rfl
  | cons m rest ih =>
    obtain ⟨hm, hrest⟩ := List.forall_mem_cons.mp h
    rw [readMembers, hm]
    exact ih hrest

/-- An object type whose members have no objects inside, are told apart by their keys, and have no
rules but those that skip. -/
structure ObjectType.SkipsOnly (t : ObjectType MemberType) (o : Options) : Prop where
  rules : ∀ m ∈ t.schema.members, m.rules.SkipsOnly
  types : ∀ m ∈ t.schema.members, m.type.isFaithful = true ∧ m.type.isFlat = true
  keys : (t.schema.members.map (·.key o)).Nodup

section ObjectTypes

variable {ts : TypeTable} {o : Options} {t : ObjectType MemberType} {n : String} {x : Object}

/-- The datum of a member has a native form, which it is read back from, and which is empty only if
the datum is. -/
theorem ObjectType.SkipsOnly.exists_toNative (ho : o.registry.IsBuiltin) (hsound : ts.IsSound)
    (hfind : ts.find? n = some t) (hx : (Datum.object x).HasType ts (.object n))
    (ht : t.SkipsOnly o) {m : Member MemberType} (hm : m ∈ t.schema.members) :
    ∃ v, (ts.codec m.type).toNative o (m.get x) = .ok v
      ∧ (ts.codec m.type).readValue o v = .ok (m.get x)
      ∧ ((m.get x).isEmpty? = none → v.isEmpty? ≠ some true) := by
  have hleads := (hsound t (TypeTable.mem_of_find? hfind)).leads m hm
  have hdatum : (m.get x).HasType ts m.type := Member.hasType_get hfind hx hleads
  obtain ⟨hfaithful, hflat⟩ := ht.types m hm
  -- there is no object inside, so nothing is asked of their codecs
  have hobjects : ∀ n x, (Datum.object x).HasType ts (.object n) → x.depth < 0 →
      (ts.objectCodec ts.nesting n).RoundTrips o (.object x) :=
    fun _ _ _ h => absurd h (Nat.not_lt_zero _)
  obtain ⟨v, hnative, hread⟩ := MemberType.roundTrips ho (ts.neverNull_objectCodec o ts.nesting)
    hobjects hdatum hfaithful (Nat.le_of_eq (MemberType.depth_of_isFlat hdatum hflat))
  have hknows := MemberType.not_hidesEmptiness hdatum hfaithful hflat
  have hempty := (TypeTable.shapedAs_of_toNative hnative).isEmpty?_eq_true_of_knows hknows
  exact ⟨v, hnative, hread, fun hd hv => absurd (hd.symm.trans (hempty.mpr hv)) nofun⟩

/-- Of each member the tree holds the datum, or has no entry if the member is left out. -/
def ObjectType.KeptIn (ts : TypeTable) (t : ObjectType MemberType) (o : Options) (x : Object)
    (tree : Tree) : Prop :=
  ∀ m ∈ t.schema.members,
    if m.rules.generalSkips.any (·.leavesOut (m.get x)) then
      (m.mapType ts.codec).entry o tree = .absent
    else (m.mapType ts.codec).HeldIn o x tree

/-- An object is written without error, and the tree holds what is not left out. -/
theorem ObjectType.SkipsOnly.exists_toTree (ho : o.registry.IsBuiltin) (hsound : ts.IsSound)
    (hfind : ts.find? n = some t) (hx : (Datum.object x).HasType ts (.object n))
    (ht : t.SkipsOnly o) :
    ∃ tree, (ts.compile t).schema.toTree o x = .ok tree ∧ t.KeptIn ts o x tree := by
  have hkeys : ((ts.compile t).schema.members.map (·.key o)).Nodup := by
    show ((t.schema.members.map (·.mapType ts.codec)).map (·.key o)).Nodup
    rw [List.map_map]
    exact ht.keys
  have htoWrite : ∀ m ∈ t.schema.members, ∃ v,
      (m.mapType ts.codec).toWrite o x = .ok (if m.rules.generalSkips.any
        (·.leavesOut (m.get x)) then none else some (m.get x, v))
      ∧ (ts.codec m.type).readValue o v = .ok (m.get x) := by
    intro m hm
    obtain ⟨v, hnative, hread, hempty⟩ := ht.exists_toNative ho hsound hfind hx hm
    exact ⟨v, Member.toWrite_of_skipsOnly ho (ht.rules m hm) hnative hempty, hread⟩
  obtain ⟨tree, hrun⟩ := (ts.compile t).schema.exists_write_of_toWrite Tree.takesKeys Tree.empty
    fun m hm => by
      obtain ⟨m', hm', rfl⟩ := List.mem_map.mp hm
      exact (htoWrite m' hm').imp' _ fun _ h => h.1
  refine ⟨tree, by rw [Schema.toTree, hrun]; rfl, fun m hm => ?_⟩
  obtain ⟨v, hok, hread⟩ := htoWrite m hm
  have hmem : m.mapType ts.codec ∈ (ts.compile t).schema.members := List.mem_map_of_mem hm
  split <;> rename_i hout
  · rw [if_pos hout] at hok
    exact congrArg Entry.of (Schema.get?_of_not_written hkeys hrun hmem hok)
  · rw [if_neg hout] at hok
    have hincluded := o.includes_of_not_isTransient (ht.rules m hm).stays
    exact ⟨v, Schema.get?_of_written hkeys hrun hmem hincluded hok, hread⟩

/-- Reading a member that is not lost changes nothing. -/
theorem ObjectType.SkipsOnly.read_eq_self (hsound : ts.IsSound) (hfind : ts.find? n = some t)
    (hx : (Datum.object x).HasType ts (.object n)) (ht : t.SkipsOnly o) {tree : Tree}
    (htree : t.KeptIn ts o x tree) {m : Member MemberType} (hm : m ∈ t.schema.members)
    (hlost : ¬ m.IsLost x) : (m.mapType ts.codec).read o tree x = (.ok (), x) := by
  have hrules : (m.mapType ts.codec).rules.SkipsOnly := ht.rules m hm
  have hkept := htree m hm
  split at hkept <;> rename_i hout
  · have hmissing := (Member.isLost_or_of_leavesOut (ht.rules m hm) hout).resolve_left hlost
    exact Member.read_of_passesOver hrules hkept hmissing
  · have hleads := (hsound t (TypeTable.mem_of_find? hfind)).leads m hm
    obtain ⟨d, hd, -⟩ := Object.exists_get?_part hfind hx hleads
    have hat : x.at? m.path m.slot = some (m.get x) := by
      rw [Member.get, Member.owner, Object.get, Object.at?, hd]
      rfl
    exact Member.read_of_heldIn hrules hkept hat

/-- With the built-in converters, an object whose members have no rules but those that skip is
written without error, and reading the tree into the object leaves it as it is. It succeeds if no
member is lost, and else fails with the missing entry of the first member that is. -/
theorem TypeTable.read_toTree_self (ho : o.registry.IsBuiltin) (hsound : ts.IsSound)
    (hfind : ts.find? n = some t) (hx : (Datum.object x).HasType ts (.object n))
    (ht : t.SkipsOnly o) :
    ∃ tree, (ts.compile t).schema.toTree o x = .ok tree
      ∧ ((∀ m ∈ t.schema.members, ¬ m.IsLost x) →
        (ts.compile t).schema.read o tree x = (.ok (), x))
      ∧ ∀ before m after, t.schema.members = before ++ m :: after →
        (∀ m' ∈ before, ¬ m'.IsLost x) → m.IsLost x →
        (ts.compile t).schema.read o tree x
          = (.error (.missingEntry (m.key o) m.name m.declaringType), x) := by
  obtain ⟨tree, htoTree, htree⟩ := ht.exists_toTree ho hsound hfind hx
  have hread : (ts.compile t).schema.read o tree x
      = readMembers o tree (t.schema.members.map (·.mapType ts.codec)) x := by
    refine congrArg (readMembers o tree · x) (filter_includes_eq_self o fun m hm => ?_)
    obtain ⟨m', hm', rfl⟩ := List.mem_map.mp hm
    exact (ht.rules m' hm').stays
  have hfront : ∀ ms : List (Member MemberType), (∀ m ∈ ms, m ∈ t.schema.members ∧ ¬ m.IsLost x) →
      readMembers o tree (ms.map (·.mapType ts.codec)) x = (.ok (), x) := by
    intro ms hms
    refine readMembers_eq_self fun m hm => ?_
    obtain ⟨m', hm', rfl⟩ := List.mem_map.mp hm
    exact ht.read_eq_self hsound hfind hx htree (hms m' hm').1 (hms m' hm').2
  refine ⟨tree, htoTree, fun hlost => ?_, fun before m after hmembers hbefore hlost => ?_⟩
  · rw [hread]
    exact hfront _ fun m hm => ⟨hm, hlost m hm⟩
  · have hmem : ∀ m' ∈ before ++ m :: after, m' ∈ t.schema.members := fun m' hm' => hmembers ▸ hm'
    have hm := hmem m (List.mem_append_right _ List.mem_cons_self)
    have hentry := htree m hm
    rw [if_pos (Member.leavesOut_of_isLost hlost)] at hentry
    have hmiss := Member.read_of_isLost (ht.rules m hm) hentry (Member.isLost_mapType.mpr hlost)
    rw [hread, hmembers, List.map_append, List.map_cons, readMembers_append,
      hfront before fun m' hm' => ⟨hmem m' (List.mem_append_left _ hm'), hbefore m' hm'⟩]
    dsimp only
    rw [readMembers, hmiss]
    rfl

end ObjectTypes

/-! ## Contacts

A contact has a name and aliases that are left out when they are empty. Only the aliases may be
missing, since they are left out when they are null, too. Its note may be nothing, which is not
empty, and its secret is never written.
-/

namespace Example

/-- The type of contacts. -/
def contactType : ObjectType MemberType where
  name := "Contact"
  slots := [⟨"name", .string, .string ""⟩, ⟨"aliases", .list .string, .list []⟩,
    ⟨"note", .option .string, .nothing⟩, ⟨"secret", .string, .string ""⟩]
  schema := (((((SchemaBuilder.start "Contact").field "name" "name" .string
    (MemberRules.add {} (.skip none .isEmpty))).field "aliases" "aliases" (.list .string)
    (MemberRules.addBlock {} [.skip none .isNull, .skip none .isEmpty])).field "note" "note"
    (.option .string) (MemberRules.add {} (.skip none .isEmpty))).field "secret" "secret" .string
    (MemberRules.add {} (.skip none .always))).build

/-- The table of this type. -/
def contactTypes : TypeTable := { types := [contactType] }

/-- A contact with a secret, and with no aliases and no note. -/
def contact (name : String) : Object :=
  ⟨"Contact", [("name", .string name), ("aliases", .list []), ("note", .nothing),
    ("secret", .string "x")]⟩

theorem contactTypes_isSound : contactTypes.IsSound := by
  simp only [TypeTable.IsSound, contactTypes, List.forall_mem_singleton]
  refine ⟨by decide, ?_, ?_⟩
  · simp only [contactType, List.forall_mem_cons]
    exact ⟨.string _, .list (by simp), .nothing, .string _, by simp⟩
  · show ∀ m ∈ [_, _, _, _], _
    simp only [List.forall_mem_cons]
    exact ⟨.here (s := ⟨"name", .string, .string ""⟩) (.head _),
      .here (s := ⟨"aliases", .list .string, .list []⟩) (.tail _ (.head _)),
      .here (s := ⟨"note", .option .string, .nothing⟩) (.tail _ (.tail _ (.head _))),
      .here (s := ⟨"secret", .string, .string ""⟩) (.tail _ (.tail _ (.tail _ (.head _)))),
      by simp⟩

theorem skipsOnly_add {w : SkipIf} (h : w = .always ∨ w = .isNull ∨ w = .isEmpty) :
    (MemberRules.add {} (.skip none w)).SkipsOnly :=
  ⟨fun direction => by cases direction <;> rfl, List.forall_mem_singleton.mpr h, rfl, rfl, rfl⟩

theorem contactType_skipsOnly : contactType.SkipsOnly {} := by
  have haliases : (MemberRules.addBlock {} [.skip none .isNull, .skip none .isEmpty]).SkipsOnly :=
    ⟨fun direction => by cases direction <;> rfl,
      List.forall_mem_cons.mpr ⟨.inr (.inl rfl), List.forall_mem_singleton.mpr (.inr (.inr rfl))⟩,
      rfl, rfl, rfl⟩
  refine ⟨?_, by decide, by decide⟩
  show ∀ m ∈ [_, _, _, _], _
  simp only [List.forall_mem_cons]
  exact ⟨skipsOnly_add (.inr (.inr rfl)), haliases, skipsOnly_add (.inr (.inr rfl)),
    skipsOnly_add (.inl rfl), by simp⟩

theorem hasType_contact (name : String) :
    (Datum.object (contact name)).HasType contactTypes (.object "Contact") :=
  Object.hasType_of_slots (contactTypes_isSound _ (.head _)) rfl rfl
    (.cons ⟨rfl, .string _⟩ (.cons ⟨rfl, .list (by simp)⟩ (.cons ⟨rfl, .nothing⟩
      (.cons ⟨rfl, .string _⟩ .nil))))

/-- A contact with a name is read back, though its aliases and its secret are left out. -/
theorem read_toTree_self_contact :
    ∃ tree, (contactTypes.compile contactType).schema.toTree {} (contact "Ann") = .ok tree
      ∧ (contactTypes.compile contactType).schema.read {} tree (contact "Ann")
        = (.ok (), contact "Ann") := by
  obtain ⟨tree, htoTree, hread, -⟩ := TypeTable.read_toTree_self Registry.isBuiltin_builtin
    contactTypes_isSound rfl (hasType_contact "Ann") contactType_skipsOnly
  refine ⟨tree, htoTree, hread ?_⟩
  show ∀ m ∈ [_, _, _, _], _
  simp only [List.forall_mem_cons]
  exact ⟨fun h => absurd h.empty (by decide), fun h => h.null (.head _),
    fun h => absurd h.empty (by decide), fun h => h.never (.head _), by simp⟩

/-- A contact without a name is written without error, but not read back: its name was left out
because it is empty, and is then reported as missing. -/
theorem read_toTree_lost_contact :
    Registry.builtin.IsBuiltin ∧ contactTypes.IsSound ∧ contactType.SkipsOnly {}
      ∧ contactType.schema.members.Pairwise Member.Apart
      ∧ (Datum.object (contact "")).HasType contactTypes (.object "Contact")
      ∧ (contactTypes.compile contactType).schema.toTree {} (contact "")
        = .ok ⟨[("note", .null)], []⟩
      ∧ (contactTypes.compile contactType).schema.read {} (⟨[("note", .null)], []⟩ : Tree)
        (contact "") = (.error (.missingEntry "name" "name" "Contact"), contact "") :=
  ⟨Registry.isBuiltin_builtin, contactTypes_isSound, contactType_skipsOnly, by decide,
    hasType_contact "", rfl, rfl⟩

end Example

end ConfigBinding
