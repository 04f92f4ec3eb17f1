import ConfigBinding.Proofs.Codec.RoundTrip
import ConfigBinding.Proofs.Object.Place
import ConfigBinding.Proofs.Schema.Run

/-!
# Objects are read back

An object is read back from the tree that it is written as (`TypeTable.readNew_toTree`), provided
that its members reach every slot once, that their types are faithful, and that no rule changes what
is written or read.

Writing leaves under each member's key a value that is read as the member's datum
(`Member.HeldIn`): it holds of a member once the member is written, and stays, since no later member
has the same key. Reading from such a tree copies the members one by one into a fresh object. Both
go through the members' codecs, and those of objects inside the object are dealt with by induction
on how deep they are nested.
-/

namespace ConfigBinding

open Numeric

/-- Rules that have no say in what is written or read. They may still give a key and a comment. -/
structure MemberRules.IsSilent (r : MemberRules) : Prop where
  skips : ∀ direction, r.skipRules direction = []
  defaults : r.defaults = []
  asserts : r.asserts = []
  stays : r.isTransient = false

namespace MemberRules.IsSilent

variable {r : MemberRules} (h : r.IsSilent)

include h

theorem shouldSkip_eq (direction : Direction) (seen : Observation) (x : Object) (scope : Scope) :
    r.shouldSkip direction seen x scope = .ok false := by
  rw [shouldSkip, h.skips]
  rfl

end MemberRules.IsSilent

/-! ## Writing -/

section Writing

variable {o : Options} {x : Object} {m : Member Codec}

/-- Under the member's key the tree holds a value that is read as the member's datum. -/
def Member.HeldIn (m : Member Codec) (o : Options) (x : Object) (tree : Tree) : Prop :=
  ∃ v, tree.get? (m.key o) = some v ∧ m.type.readValue o v = .ok (m.get x)

/-- What is written for a member is the native form of its datum. -/
theorem Member.toWrite_eq (ho : o.registry.IsBuiltin) (hrules : m.rules.IsSilent) {v : Value}
    (hnative : m.type.toNative o (m.get x) = .ok v) : m.toWrite o x = .ok (some (m.get x, v)) := by
  refine toWrite_eq_own ?_ hrules.defaults hrules.asserts ?_
  · exact hrules.shouldSkip_eq .writing _ _ _
  · exact Result.bind_eq_ok.mpr ⟨v, hnative, Registry.write_eq ho _ _⟩

/-- Writing a member adds its entry to the tree, and perhaps a comment. -/
theorem Member.write_eq (ho : o.registry.IsBuiltin) (hrules : m.rules.IsSilent) {v : Value}
    (hnative : m.type.toNative o (m.get x) = .ok v) (tree : Tree) :
    ∃ comments, m.write o x tree
      = (.ok (), ⟨Keyed.insert tree.entries (m.key o) v, comments⟩) := by
  rw [write, toWrite_eq ho hrules hnative]
  show ∃ comments, m.storeComment o (m.get x) (tree.insert (m.key o) v) = _
  rw [storeComment]
  cases m.rules.comment? with
  | none => exact ⟨tree.comments, rfl⟩
  | some text => exact ⟨Keyed.insert tree.comments (m.key o) text, rfl⟩

/-- When members with distinct keys are written, the tree holds each of them in the end, and under
every other key what it held before. -/
theorem writeMembers_eq (ho : o.registry.IsBuiltin) {ms : List (Member Codec)}
    (hrules : ∀ m ∈ ms, m.rules.IsSilent) (hkeys : (ms.map (·.key o)).Nodup)
    (htypes : ∀ m ∈ ms, m.type.RoundTrips o (m.get x)) (tree : Tree) :
    ∃ tree', writeMembers o x ms tree = (.ok (), tree') ∧ (∀ m ∈ ms, m.HeldIn o x tree')
      ∧ ∀ key ∉ ms.map (·.key o), tree'.get? key = tree.get? key := by
  induction ms generalizing tree with
  | nil => exact ⟨tree, rfl, by simp, fun _ _ => rfl⟩
  | cons m rest ih =>
    obtain ⟨hmrules, hrestRules⟩ := List.forall_mem_cons.mp hrules
    obtain ⟨hnew, hrestKeys⟩ := List.nodup_cons.mp hkeys
    obtain ⟨⟨v, hnative, hread⟩, hrestTypes⟩ := List.forall_mem_cons.mp htypes
    obtain ⟨comments, hwrite⟩ := Member.write_eq ho hmrules hnative tree
    obtain ⟨tree', hrest, hheld, hothers⟩ := ih hrestRules hrestKeys hrestTypes
      ⟨Keyed.insert tree.entries (m.key o) v, comments⟩
    -- no later member has this key, so its entry is still there in the end
    refine ⟨tree', ?_, List.forall_mem_cons.mpr ⟨⟨v, ?_, hread⟩, hheld⟩, fun key hkey => ?_⟩
    · rw [writeMembers, hwrite]
      exact hrest
    · rw [hothers (m.key o) hnew]
      exact Keyed.get?_insert_self _ _ _
    · rw [hothers key (List.not_mem_of_not_mem_cons hkey)]
      exact Keyed.get?_insert_of_ne _ _ (List.ne_of_not_mem_cons hkey)

end Writing

/-! ## Reading -/

section Reading

variable {o : Options} {x : Object} {tree : Tree}

/-- The entry of a member that the tree holds stands for the member's datum. -/
theorem Member.HeldIn.convert_eq {m : Member Codec} (h : m.HeldIn o x tree) :
    m.convert o (m.entry o tree) = .ok (m.get x) := by
  obtain ⟨v, hget, hread⟩ := h
  have hentry : m.entry o tree = Entry.of (some v) := by
    show Entry.of (tree.get? (m.key o)) = _
    rw [hget]
  rw [hentry]
  cases v <;> exact Result.mapError_eq_ok.mpr hread

/-- Reading a member that the tree holds gives the member its datum. -/
theorem Member.read_eq {m : Member Codec} (hrules : m.rules.IsSilent) (h : m.HeldIn o x tree)
    (y : Object) : m.read o tree y = (.ok (), m.set y (m.get x)) := by
  have htoRead : m.toRead o tree y = .ok (some (m.get x)) := by
    rw [toRead_eq_convert (hrules.shouldSkip_eq .reading _ _ _) hrules.defaults hrules.asserts,
      h.convert_eq]
    rfl
  rw [read, htoRead]

/-- Reading members that the tree holds copies them. -/
theorem readMembers_eq {ms : List (Member Codec)} (hrules : ∀ m ∈ ms, m.rules.IsSilent)
    (hheld : ∀ m ∈ ms, m.HeldIn o x tree) (y : Object) :
    readMembers o tree ms y = (.ok (), copyMembers ms x y) := by
  induction ms generalizing y with
  | nil => rfl
  | cons m rest ih =>
    obtain ⟨hmrules, hrestRules⟩ := List.forall_mem_cons.mp hrules
    obtain ⟨hmheld, hrestHeld⟩ := List.forall_mem_cons.mp hheld
    rw [readMembers, Member.read_eq hmrules hmheld]
    exact ih hrestRules hrestHeld _

end Reading

/-! ## Object types -/

/-- An object type whose objects can be read back: every slot is reached once, no rule interferes,
and members are told apart by their keys and their data by their native forms. -/
structure ObjectType.IsFaithful (ts : TypeTable) (o : Options) (t : ObjectType MemberType) :
    Prop where
  reaches : t.ReachesOnce ts
  silent : ∀ m ∈ t.schema.members, m.rules.IsSilent
  types : ∀ m ∈ t.schema.members, m.type.isFaithful = true
  keys : (t.schema.members.map (·.key o)).Nodup

/-- A table all of whose object types are faithful. -/
def TypeTable.IsFaithful (ts : TypeTable) (o : Options) : Prop := ∀ t ∈ ts.types, t.IsFaithful ts o

section ObjectTypes

variable {ts : TypeTable} {o : Options} {t : ObjectType MemberType} {n : String} {x : Object}

/-- An object is read back when objects of less depth are. -/
theorem ObjectType.readNew_of_toTree {objects : String → Codec} {nesting : Nat}
    (ho : o.registry.IsBuiltin) (hnull : NeverNull objects o)
    (hobjects : ∀ n x, (Datum.object x).HasType ts (.object n) → x.depth < nesting →
      (objects n).RoundTrips o (.object x))
    (hsound : ts.IsSound) (ht : t.IsFaithful ts o) (hfind : ts.find? n = some t)
    (hx : (Datum.object x).HasType ts (.object n)) (hdepth : x.depth ≤ nesting) :
    ∃ tree, (t.mapType (MemberType.codecWith objects)).schema.toTree o x = .ok tree
      ∧ (t.mapType (MemberType.codecWith objects)).readNew o tree = .ok x := by
  have htyped := hsound t (TypeTable.mem_of_find? hfind)
  have hmembers : (t.mapType (MemberType.codecWith objects)).schema.members
      = t.schema.members.map (·.mapType (MemberType.codecWith objects)) := rfl
  have hrules : ∀ m ∈ t.schema.members.map (·.mapType (MemberType.codecWith objects)),
      m.rules.IsSilent := by
    intro m hm
    obtain ⟨m', hm', rfl⟩ := List.mem_map.mp hm
    exact ht.silent m' hm'
  have hkeys : ((t.schema.members.map (·.mapType (MemberType.codecWith objects))).map
      (·.key o)).Nodup := by
    rw [List.map_map]
    exact ht.keys
  have htypes : ∀ m ∈ t.schema.members.map (·.mapType (MemberType.codecWith objects)),
      m.type.RoundTrips o (m.get x) := by
    intro m hm
    obtain ⟨m', hm', rfl⟩ := List.mem_map.mp hm
    have hdatum : (m'.get x).HasType ts m'.type :=
      Member.hasType_get hfind hx (htyped.leads m' hm')
    exact MemberType.roundTrips ho hnull hobjects hdatum (ht.types m' hm')
      (Nat.le_trans (Member.depth_get_le m' x) hdepth)
  have hstays : ∀ m ∈ t.schema.members.map (·.mapType (MemberType.codecWith objects)),
      m.rules.isTransient = false := fun m hm => (hrules m hm).stays
  -- what is written holds every member, and reading from it copies them into a fresh object
  obtain ⟨tree, hwrite, hheld, -⟩ := writeMembers_eq ho hrules hkeys htypes Tree.empty
  refine ⟨tree, ?_, ?_⟩
  · rw [Schema.toTree, Schema.write, hmembers, filter_includes_eq_self o hstays, hwrite]
    rfl
  · have hcopy : copyMembers (t.schema.members.map (·.mapType (MemberType.codecWith objects))) x
        t.fresh = copyMembers t.schema.members x t.fresh := by
      rw [copyMembers, copyMembers, List.foldl_map]
      rfl
    rw [readNew, Schema.readOver, Schema.read, hmembers, filter_includes_eq_self o hstays,
      fresh_mapType, readMembers_eq hrules hheld, hcopy,
      copyMembers_eq hsound ht.reaches hfind hx (hasType_fresh htyped hfind)]
    rfl

theorem TypeTable.neverNull_objectCodec (ts : TypeTable) (o : Options) (nesting : Nat) :
    NeverNull (ts.objectCodec nesting) o := by
  intro n d v h
  cases nesting with
  | zero => cases h
  | succ nesting =>
    rw [objectCodec] at h
    split at h
    · cases d with
      | object x =>
        obtain ⟨tree, -, rfl⟩ := Result.map_eq_ok.mp h
        rfl
      | _ => cases h
    · cases h

/-- The objects of a faithful table are read back from their native forms, as deep as the table
converts them. -/
theorem TypeTable.roundTrips_objectCodec (ho : o.registry.IsBuiltin) (hsound : ts.IsSound)
    (hts : ts.IsFaithful o) (nesting : Nat) :
    ∀ n x, (Datum.object x).HasType ts (.object n) → x.depth < nesting →
      (ts.objectCodec nesting n).RoundTrips o (.object x) := by
  induction nesting with
  | zero =>
    intro n x _ hdepth
    exact absurd hdepth (Nat.not_lt_zero _)
  | succ nesting ih =>
    intro n x hx hdepth
    have ⟨t, hfind⟩ : ∃ t, ts.find? n = some t := by
      cases hx with
      | object hfind => exact ⟨_, hfind⟩
    obtain ⟨tree, hwrite, hread⟩ := ObjectType.readNew_of_toTree ho
      (ts.neverNull_objectCodec o nesting) ih hsound (hts t (mem_of_find? hfind)) hfind hx
      (Nat.le_of_lt_succ hdepth)
    have hcodec : ts.objectCodec (nesting + 1) n
        = t.codec (MemberType.codecWith (ts.objectCodec nesting)) := by
      rw [objectCodec, hfind]
    rw [hcodec]
    refine ⟨.config tree, Result.map_eq_ok.mpr ⟨tree, hwrite, rfl⟩, ?_⟩
    exact (Codec.readValue_kept ho rfl).mpr (Result.map_eq_ok.mpr ⟨x, hread, rfl⟩)

/-- With the built-in converters, the objects of faithful types are written without error, and what
is read from the tree is the object again. Objects may be nested as deep as the table converts them,
which is the table's own choice. -/
theorem TypeTable.readNew_toTree (ho : o.registry.IsBuiltin) (hsound : ts.IsSound)
    (hts : ts.IsFaithful o) (hfind : ts.find? n = some t)
    (hx : (Datum.object x).HasType ts (.object n)) (hdepth : x.depth ≤ ts.nesting) :
    ∃ tree, (ts.compile t).schema.toTree o x = .ok tree
      ∧ (ts.compile t).readNew o tree = .ok x :=
  ObjectType.readNew_of_toTree ho (ts.neverNull_objectCodec o ts.nesting)
    (roundTrips_objectCodec ho hsound hts ts.nesting) hsound (hts t (mem_of_find? hfind)) hfind hx
    hdepth

end ObjectTypes

/-! ## Objects built on others

A service has a number beyond 63 bits and a ratio. A cluster is built on a service, whose members
are made members of the cluster, and may hold another cluster as its backup.
-/

namespace Example

/-- The type of services. -/
def serviceType : ObjectType MemberType where
  name := "Service"
  slots := [⟨"id", .integer .u64, .integer 0⟩, ⟨"ratio", .single, .single (.ofInt .single 0)⟩]
  schema := (((SchemaBuilder.start "Service").field "id" "id" (.integer .u64) {}).field "ratio"
    "ratio" .single {}).build

/-- The type of clusters. -/
def clusterType : ObjectType MemberType where
  name := "Cluster"
  slots := [⟨"base", .object "Service", .object serviceType.fresh⟩,
    ⟨"limits", .map .sorted (.list (.integer .i32)), .map .sorted []⟩,
    ⟨"backup", .option (.object "Cluster"), .nothing⟩]
  schema := ((((SchemaBuilder.start "Cluster").field "limits" "limits"
    (.map .sorted (.list (.integer .i32))) {}).field "backup" "backup"
    (.option (.object "Cluster")) (MemberRules.add {} (.key "fallback"))).embed "base"
    serviceType.schema).build

/-- The types of both. -/
def types : TypeTable := { types := [serviceType, clusterType] }

/-- A service with a number. -/
def service (id : Int) : Object :=
  ⟨"Service", [("id", .integer id), ("ratio", .single (.ofInt .single 3))]⟩

/-- A cluster with the number of its service, and perhaps a backup. -/
def cluster (id : Int) (backup : Datum) : Object :=
  ⟨"Cluster", [("base", .object (service id)), ("limits", .map .sorted [("cpu", .list [.integer 4])]),
    ("backup", backup)]⟩

theorem find?_service : types.find? "Service" = some serviceType := rfl

theorem isSilent_none : MemberRules.IsSilent {} :=
  ⟨fun direction => by cases direction <;> rfl, rfl, rfl, rfl⟩

theorem isSilent_key (key : String) : (MemberRules.add {} (.key key)).IsSilent :=
  ⟨fun direction => by cases direction <;> rfl, rfl, rfl, rfl⟩

theorem serviceType_isSound : serviceType.IsSound types := by
  refine ⟨by decide, ?_, ?_⟩
  · simp only [serviceType, List.forall_mem_cons]
    exact ⟨.integer (by decide), .single _, by simp⟩
  · show ∀ m ∈ [_, _], _
    simp only [List.forall_mem_cons]
    exact ⟨.here (s := ⟨"id", .integer .u64, .integer 0⟩) (.head _),
      .here (s := ⟨"ratio", .single, .single (.ofInt .single 0)⟩) (.tail _ (.head _)), by simp⟩

theorem clusterType_isSound : clusterType.IsSound types := by
  have hbase : (Datum.object serviceType.fresh).HasType types (.object "Service") :=
    serviceType.hasType_fresh serviceType_isSound rfl
  have hlimits : (Datum.map .sorted []).HasType types (.map .sorted (.list (.integer .i32))) :=
    .map List.nodup_nil List.mergeSort_nil (by simp)
  refine ⟨by decide, ?_, ?_⟩
  · simp only [clusterType, List.forall_mem_cons]
    exact ⟨hbase, hlimits, .nothing, by simp⟩
  · have hslot : ⟨"base", .object "Service", .object serviceType.fresh⟩ ∈ clusterType.slots :=
      .head _
    show ∀ m ∈ [_, _, _, _], _
    simp only [List.forall_mem_cons]
    refine ⟨?_, ?_, ?_, ?_, by simp⟩
    · exact .here (s := ⟨"limits", .map .sorted (.list (.integer .i32)), .map .sorted []⟩)
        (.tail _ (.head _))
    · exact .here (s := ⟨"backup", .option (.object "Cluster"), .nothing⟩)
        (.tail _ (.tail _ (.head _)))
    · exact .inside hslot rfl find?_service (serviceType_isSound.leads _ (.head _))
    · exact .inside hslot rfl find?_service (serviceType_isSound.leads _ (.tail _ (.head _)))

theorem serviceType_isFaithful : serviceType.IsFaithful types {} := by
  refine ⟨⟨by decide, ?_⟩, ?_, by decide, by decide⟩
  · simp only [serviceType, List.forall_mem_cons]
    exact ⟨.member (.head _) rfl, .member (.tail _ (.head _)) rfl, by simp⟩
  · show ∀ m ∈ [_, _], _
    simp only [List.forall_mem_cons]
    exact ⟨isSilent_none, isSilent_none, by simp⟩

theorem clusterType_isFaithful : clusterType.IsFaithful types {} := by
  refine ⟨⟨by decide, ?_⟩, ?_, by decide, by decide⟩
  · have hbase : SlotReached types clusterType.schema.members []
        ⟨"base", .object "Service", .object serviceType.fresh⟩ := by
      refine .parts rfl find?_service ?_
      simp only [serviceType, List.forall_mem_cons]
      exact ⟨.member (.tail _ (.tail _ (.head _))) rfl,
        .member (.tail _ (.tail _ (.tail _ (.head _)))) rfl, by simp⟩
    simp only [clusterType, List.forall_mem_cons]
    exact ⟨hbase, .member (.head _) rfl, .member (.tail _ (.head _)) rfl, by simp⟩
  · show ∀ m ∈ [_, _, _, _], _
    simp only [List.forall_mem_cons]
    exact ⟨isSilent_none, isSilent_key "fallback", isSilent_none, isSilent_none, by simp⟩

theorem hasType_service {id : Int} (h : IntType.u64.contains id = true) :
    (Datum.object (service id)).HasType types (.object "Service") :=
  Object.hasType_of_slots serviceType_isSound rfl rfl
    (.cons ⟨rfl, .integer h⟩ (.cons ⟨rfl, .single _⟩ .nil))

theorem hasType_cluster {id : Int} (h : IntType.u64.contains id = true) {backup : Datum}
    (hbackup : backup.HasType types (.option (.object "Cluster"))) :
    (Datum.object (cluster id backup)).HasType types (.object "Cluster") := by
  have hlimits : (Datum.map .sorted [("cpu", .list [.integer 4])]).HasType types
      (.map .sorted (.list (.integer .i32))) := by
    refine .map (List.nodup_singleton _) (List.mergeSort_singleton _) ?_
    simp only [List.forall_mem_singleton]
    exact .list (by simpa using .integer (by decide))
  exact Object.hasType_of_slots clusterType_isSound rfl rfl
    (.cons ⟨rfl, hasType_service h⟩ (.cons ⟨rfl, hlimits⟩ (.cons ⟨rfl, hbackup⟩ .nil)))

/-- A cluster with the greatest number that a service can have, and a backup, is read back. -/
theorem readNew_toTree_cluster :
    ∃ tree, (types.compile clusterType).schema.toTree {}
        (cluster (2 ^ 64 - 1) (.just (.object (cluster 7 .nothing)))) = .ok tree
      ∧ (types.compile clusterType).readNew {} tree
        = .ok (cluster (2 ^ 64 - 1) (.just (.object (cluster 7 .nothing)))) := by
  have hsound : types.IsSound := by
    simp only [TypeTable.IsSound, types, List.forall_mem_cons]
    exact ⟨serviceType_isSound, clusterType_isSound, by simp⟩
  have hfaithful : types.IsFaithful {} := by
    simp only [TypeTable.IsFaithful, types, List.forall_mem_cons]
    exact ⟨serviceType_isFaithful, clusterType_isFaithful, by simp⟩
  have hbackup := hasType_cluster (show IntType.u64.contains 7 = true by decide) .nothing
  have hcluster := hasType_cluster (show IntType.u64.contains (2 ^ 64 - 1) = true by decide)
    (.just hbackup)
  exact TypeTable.readNew_toTree Registry.isBuiltin_builtin hsound hfaithful rfl hcluster
    (by decide)

end Example

end ConfigBinding
