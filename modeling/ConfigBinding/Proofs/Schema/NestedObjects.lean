import ConfigBinding.Converter.Lemmas
import ConfigBinding.Proofs.Schema.TwoRuns
import ConfigBinding.Proofs.Schema.WriteFrame

/-!
# Objects inside containers

The native form of an object is the tree that it is written as, so its members have gone through
the registry when the object around it is still to be converted. A container of objects then goes
through the registry as a whole. If the serializers of the caller only take scalars, the registry
takes the containers apart and finds trees that are kept as they are
(`Registry.writeWith_assembled`), so each object is converted once.

What is stored for a container of objects is therefore put together from its own structure and from
what the objects in it are written as by themselves (`MemberType.Assembled`). By themselves means in
the place where they are; since objects are converted only to some depth, they may fail there and
not on their own, but what they are written as is the same (`TypeTable.objectCodec_yields`).
-/

namespace ConfigBinding

/-! ## Containers of objects -/

namespace Codec

variable {c : Codec} {o : Options} {d : Datum} {v : Value}

theorem toNative_option_eq_ok : (Codec.option c).toNative o d = .ok v
    ↔ d = .nothing ∧ v = .null ∨ ∃ content, d = .just content ∧ c.toNative o content = .ok v := by
  cases d with
  | nothing =>
    show Except.ok Value.null = .ok v ↔ _
    simp [eq_comm (a := v)]
  | just content =>
    show c.toNative o content = .ok v ↔ _
    simp
  | _ =>
    show stray = .ok v ↔ _
    simp [stray]

theorem toNative_list_eq_ok : (Codec.list c).toNative o d = .ok v
    ↔ ∃ ds vs, d = .list ds ∧ v = .list vs
      ∧ List.Forall₂ (fun d v => c.toNative o d = .ok v) ds vs := by
  cases d with
  | list ds =>
    show Value.list <$> ds.mapM (c.toNative o) = .ok v ↔ _
    rw [Result.map_eq_ok]
    simp only [Result.mapM_eq_ok]
    constructor
    · rintro ⟨vs, hvs, rfl⟩
      exact ⟨ds, vs, rfl, rfl, hvs⟩
    · rintro ⟨_, vs, ⟨⟩, rfl, hvs⟩
      exact ⟨vs, hvs, rfl⟩
  | _ =>
    show stray = .ok v ↔ _
    simp [stray]

theorem toNative_map_eq_ok {kind : MapKind} : (Codec.map kind c).toNative o d = .ok v
    ↔ ∃ held ds vs, d = .map held ds ∧ v = .config ⟨vs, []⟩
      ∧ List.Forall₂ (fun p q => p.1 = q.1 ∧ c.toNative o p.2 = .ok q.2) ds vs := by
  cases d with
  | map held ds =>
    constructor
    · intro h
      obtain ⟨vs, hvs, h⟩ := Result.bind_eq_ok.mp h
      obtain rfl := Except.ok.inj h
      exact ⟨held, ds, vs, rfl, rfl, (Result.mapM_values_eq_ok (f := c.toNative o)).mp hvs⟩
    · rintro ⟨_, _, vs, ⟨⟩, rfl, hvs⟩
      exact Result.bind_eq_ok.mpr ⟨vs, (Result.mapM_values_eq_ok (f := c.toNative o)).mpr hvs, rfl⟩
  | _ =>
    show stray = .ok v ↔ _
    simp [stray]

end Codec

namespace MemberType

/-- The type is built from the object type of a name, by optionals, lists and maps alone. -/
def IsAround (n : String) : MemberType → Prop
  | .option t | .list t | .map _ t => t.IsAround n
  | .object n' => n' = n
  | _ => False

/-- The value has the structure of the datum, and in the place of each object there is a tree that
belongs to it: nothing is the null marker, lists keep their order, and maps their keys and the order
of those. -/
def Assembled (treeOf : Object → Tree → Prop) : MemberType → Datum → Value → Prop
  | .option t => fun d v =>
    d = .nothing ∧ v = .null ∨ ∃ content, d = .just content ∧ t.Assembled treeOf content v
  | .list t => fun d v => ∃ ds vs, d = .list ds ∧ v = .list vs
    ∧ List.Forall₂ (t.Assembled treeOf) ds vs
  | .map _ t => fun d v => ∃ held ds vs, d = .map held ds ∧ v = .config ⟨vs, []⟩
    ∧ List.Forall₂ (fun p q => p.1 = q.1 ∧ t.Assembled treeOf p.2 q.2) ds vs
  | .object _ => fun d v => ∃ x tree, d = .object x ∧ v = .config tree ∧ treeOf x tree
  | _ => fun _ _ => False

variable {n : String} {t : MemberType} {objects : String → Codec} {o : Options}
  {treeOf : Object → Tree → Prop} {d : Datum} {v : Value}

theorem Assembled.imp {treeOf' : Object → Tree → Prop}
    (htree : ∀ x tree, treeOf x tree → treeOf' x tree) (h : t.Assembled treeOf d v) :
    t.Assembled treeOf' d v := by
  induction t generalizing d v with
  | option t ih => exact h.imp id fun ⟨content, hd, h⟩ => ⟨content, hd, ih h⟩
  | list t ih =>
    obtain ⟨ds, vs, hd, hv, h⟩ := h
    exact ⟨ds, vs, hd, hv, h.imp fun _ _ h => ih h⟩
  | map kind t ih =>
    obtain ⟨held, ds, vs, hd, hv, h⟩ := h
    exact ⟨held, ds, vs, hd, hv, h.imp fun _ _ ⟨hkey, h⟩ => ⟨hkey, ih h⟩⟩
  | object n =>
    obtain ⟨x, tree, hd, hv, h⟩ := h
    exact ⟨x, tree, hd, hv, htree x tree h⟩
  | _ => exact h

/-- The native form of a container of objects is assembled from those of the objects. -/
theorem toNative_eq_ok (ht : t.IsAround n)
    (hobject : ∀ d v, (objects n).toNative o d = .ok v
      ↔ ∃ x tree, d = .object x ∧ v = .config tree ∧ treeOf x tree) :
    (t.codecWith objects).toNative o d = .ok v ↔ t.Assembled treeOf d v := by
  induction t generalizing d v with
  | option t ih =>
    rw [codecWith, Codec.toNative_option_eq_ok, Assembled]
    simp only [ih ht]
  | list t ih =>
    rw [codecWith, Codec.toNative_list_eq_ok, Assembled]
    simp only [ih ht]
  | map kind t ih =>
    rw [codecWith, Codec.toNative_map_eq_ok, Assembled]
    simp only [ih ht]
  | object n' =>
    obtain rfl : n' = n := ht
    exact hobject d v
  | _ => cases ht

end MemberType

/-! ## The registry leaves them as they are -/

/-- Whether the value is neither the null marker nor made of other values. -/
def Value.isScalar (v : Value) : Bool := !v.isNull && !v.isList && !v.isConfig

namespace Registry

/-- The serializers that the caller has added accept nothing but scalars. -/
def TakesOnlyScalars (r : Registry) : Prop :=
  ∀ s ∈ r.serializers, ∀ v c, s.accepts v c = true → v.isScalar = true

theorem ownWriting?_eq_none {r : Registry} (h : r.TakesOnlyScalars) (again : Writing) (v : Value)
    (c : Constraint) (hv : v.isScalar = false) : r.ownWriting? again v c = none := by
  rw [ownWriting?, Option.map_eq_none_iff, List.find?_eq_none]
  intro s hs haccepts
  rw [h s hs v c haccepts] at hv
  cases hv

section Writing

variable {own : Value → Constraint → Option (Result Value)} {c : Constraint} {name : String}

/-- A value that the caller's serializers do not take is converted like what is optional. -/
theorem writeWith_optional (hown : ∀ v c, v.isScalar = false → own v c = none) {v : Value}
    (hv : v.isScalar = false) : writeWith own v ⟨.optional, name, [c]⟩ = writeWith own v c := by
  cases v with
  | null => rw [writeWith, writeWith, hown _ _ rfl, hown _ _ rfl]
  | list items =>
    rw [writeWith, writeOptional, hown _ _ rfl, writeWith]
    exact if_pos rfl
  | config t =>
    obtain ⟨entries, comments⟩ := t
    rw [writeWith, writeOptional, hown _ _ rfl, writeWith]
    exact if_pos rfl
  | _ => cases hv

/-- A list stays if its items do. -/
theorem writeWith_list (hown : ∀ v c, v.isScalar = false → own v c = none) {vs : List Value}
    (h : ∀ v ∈ vs, writeWith own v c = .ok v) :
    writeWith own (.list vs) ⟨.list, name, [c]⟩ = .ok (.list vs) := by
  rw [writeWith, writeOptional, hown _ _ rfl]
  show Value.list <$> writeItems own c vs = _
  rw [writeItems_eq_mapM, Result.map_eq_ok]
  exact ⟨vs, Result.mapM_eq_ok.mpr (List.forall₂_same.mpr h), rfl⟩

/-- A map stays if its values do. -/
theorem writeWith_map (hown : ∀ v c, v.isScalar = false → own v c = none)
    {entries : List (String × Value)} (h : ∀ p ∈ entries, writeWith own p.2 c = .ok p.2) :
    writeWith own (.config ⟨entries, []⟩) ⟨.map, name, [c]⟩ = .ok (.config ⟨entries, []⟩) := by
  rw [writeWith, writeOptional, hown _ _ rfl]
  show (do
    let entries ← writeEntries own c entries
    return Value.config ⟨entries, []⟩ : Result Value) = _
  rw [writeEntries_eq_mapM, Result.bind_eq_ok]
  refine ⟨entries, ?_, rfl⟩
  exact (Result.mapM_values_eq_ok (f := (writeWith own · c))).mpr
    (List.forall₂_same.mpr fun p hp => ⟨rfl, h p hp⟩)

/-- The tree of an object stays, whatever is in it. -/
theorem writeWith_object (hown : ∀ v c, v.isScalar = false → own v c = none) (tree : Tree) :
    writeWith own (.config tree) (.plain .object name) = .ok (.config tree) := by
  obtain ⟨entries, comments⟩ := tree
  rw [writeWith, Constraint.plain, writeOptional, hown _ _ rfl]
  rfl

variable {n : String} {t : MemberType} {treeOf : Object → Tree → Prop} {d : Datum} {v : Value}

theorem isScalar_of_assembled (ht : t.IsAround n) (h : t.Assembled treeOf d v) :
    v.isScalar = false := by
  induction t generalizing d v with
  | option t ih =>
    rcases h with ⟨-, rfl⟩ | ⟨content, -, h⟩
    · rfl
    · exact ih ht h
  | list t =>
    obtain ⟨ds, vs, -, rfl, -⟩ := h
    rfl
  | map kind t =>
    obtain ⟨held, ds, vs, -, rfl, -⟩ := h
    rfl
  | object n' =>
    obtain ⟨x, tree, -, rfl, -⟩ := h
    rfl
  | _ => cases ht

/-- Containers of trees of objects stay as they are, whatever the serializers of the caller do to
the scalars in the trees. -/
theorem writeWith_assembled (hown : ∀ v c, v.isScalar = false → own v c = none) (ht : t.IsAround n)
    (h : t.Assembled treeOf d v) : writeWith own v t.constraint = .ok v := by
  induction t generalizing d v with
  | option t ih =>
    show writeWith own v ⟨.optional, _, [t.constraint]⟩ = _
    rw [writeWith_optional hown (isScalar_of_assembled (t := .option t) ht h)]
    rcases h with ⟨-, rfl⟩ | ⟨content, -, h⟩
    · rw [writeWith, hown _ _ rfl]
      rfl
    · exact ih ht h
  | list t ih =>
    obtain ⟨ds, vs, -, rfl, hvs⟩ := h
    refine writeWith_list hown fun v hv => ?_
    obtain ⟨d, -, hd⟩ := exists_of_forall₂ hvs hv
    exact ih ht hd
  | map kind t ih =>
    obtain ⟨held, ds, vs, -, rfl, hvs⟩ := h
    refine writeWith_map hown fun p hp => ?_
    obtain ⟨q, -, -, hq⟩ := exists_of_forall₂ hvs hp
    exact ih ht hq
  | object n' =>
    obtain ⟨x, tree, -, rfl, -⟩ := h
    exact writeWith_object hown tree
  | _ => cases ht

end Writing

theorem write_assembled {r : Registry} (hr : r.TakesOnlyScalars) {n : String} {t : MemberType}
    (ht : t.IsAround n) {treeOf : Object → Tree → Prop} {d : Datum} {v : Value}
    (h : t.Assembled treeOf d v) : r.write v t.constraint = .ok v := by
  rw [write]
  cases r.nesting with
  | zero => exact writeWith_assembled (ownWriting?_eq_none hr _) ht h
  | succ nesting => exact writeWith_assembled (ownWriting?_eq_none hr _) ht h

end Registry

/-! ## How deep objects are converted -/

section Depth

variable {L : Comparison} {o : Options} {ts : TypeTable}

/-- The native forms of data compare if those of objects do. -/
theorem MemberType.toNative_rel {objects objects' : String → Codec}
    (h : ∀ n d, L.Rel Eq ((objects n).toNative o d) ((objects' n).toNative o d)) (t : MemberType)
    (d : Datum) :
    L.Rel Eq ((t.codecWith objects).toNative o d) ((t.codecWith objects').toNative o d) := by
  induction t generalizing d with
  | option t ih =>
    cases d with
    | just content => exact ih content
    | _ => exact L.refl _
  | list t ih =>
    cases d with
    | list ds =>
      refine L.map (L.mapM_eq fun d _ => ih d) ?_
      rintro vs _ rfl
      rfl
    | _ => exact L.refl _
  | map kind t ih =>
    cases d with
    | map _ ds =>
      refine L.bind_eq (L.mapM_eq fun p _ => ?_) fun vs => L.refl _
      exact L.bind_eq (ih p.2) fun v => L.refl _
    | _ => exact L.refl _
  | object n => exact h n d
  | _ => exact L.refl _

namespace TypeTable

/-- Members of one object compare if the native forms of objects do. -/
theorem comparesWriting {k k' : Nat}
    (h : ∀ n d, L.Rel Eq ((ts.objectCodec k n).toNative o d) ((ts.objectCodec k' n).toNative o d))
    (m : Member MemberType) (x : Object) :
    m.ComparesWriting L Eq (ts.codecAt k) (ts.codecAt k') o x x where
  name := by
    rw [codecAt, codecAt, MemberType.codecWith_name (ts.namesKept_objectCodec k),
      MemberType.codecWith_name (ts.namesKept_objectCodec k')]
  constraint := by
    rw [codecAt, codecAt, MemberType.codecWith_constraint (ts.namesKept_objectCodec k),
      MemberType.codecWith_constraint (ts.namesKept_objectCodec k')]
  null := rfl
  empty := rfl
  native := MemberType.toNative_rel h m.type (m.get x)
  skips _ _ _ _ _ _ hentry := hentry.eq ▸ rfl
  defaults _ _ _ _ := rfl
  defaultNatives _ := MemberType.toNative_rel h m.type
  asserts _ _ _ _ d e hpaired := by
    obtain rfl | ⟨rfl, rfl⟩ := hpaired <;> rfl

/-- An object that is converted where it is keeps its tree where more objects inside one another may
be converted. -/
theorem objectCodec_yields {k k' : Nat} (hk : k ≤ k') (n : String) (d : Datum) :
    Result.Yields Eq ((ts.objectCodec k n).toNative o d) ((ts.objectCodec k' n).toNative o d) := by
  induction k generalizing k' n d with
  | zero => exact nofun
  | succ k ih =>
    obtain ⟨k', rfl⟩ : ∃ k'', k' = k'' + 1 := ⟨k' - 1, by omega⟩
    have hobjects : ∀ n d, Comparison.yielding.Rel Eq ((ts.objectCodec k n).toNative o d)
        ((ts.objectCodec k' n).toNative o d) := fun n d => ih (Nat.le_of_succ_le_succ hk) n d
    rw [objectCodec, objectCodec]
    cases ts.find? n with
    | none => exact Comparison.yielding.refl _
    | some t =>
      cases d with
      | object x =>
        have htree : Comparison.yielding.Rel Eq ((t.mapType (ts.codecAt k)).schema.toTree o x)
            ((t.mapType (ts.codecAt k')).schema.toTree o x) := by
          rw [Schema.toTree_eq_writeOver, Schema.toTree_eq_writeOver]
          exact writeOver_rel Store.follows_eq (fun m _ _ => Member.toWrite_rel
            (Comparison.carries_eq _) (ts.comparesWriting hobjects m x)) rfl
        refine Comparison.yielding.map htree ?_
        rintro tree _ rfl
        rfl
      | _ => exact Comparison.yielding.refl _

/-- Objects of the type of a name are written as a tree by themselves. -/
def WritesTree (ts : TypeTable) (o : Options) (n : String) (x : Object) (tree : Tree) : Prop :=
  ∃ t, ts.find? n = some t ∧ (ts.compile t).schema.toTree o x = .ok tree

theorem objectCodec_eq_ok {k : Nat} {n : String} {d : Datum} {v : Value} :
    (ts.objectCodec k n).toNative o d = .ok v ↔ ∃ x tree, d = .object x ∧ v = .config tree
      ∧ (ts.objectCodec k n).toNative o (.object x) = .ok (.config tree) := by
  constructor
  · intro h
    cases k with
    | zero => cases h
    | succ k =>
      rw [objectCodec] at h ⊢
      cases hfind : ts.find? n with
      | none =>
        rw [hfind] at h
        cases h
      | some t =>
        rw [hfind] at h
        cases d with
        | object x =>
          obtain ⟨tree, htree, rfl⟩ := Result.map_eq_ok.mp h
          exact ⟨x, tree, rfl, rfl, h⟩
        | _ => cases h
  · rintro ⟨x, tree, rfl, rfl, h⟩
    exact h

/-- Where an object is converted inside others, its tree is the one that it is written as by
itself. -/
theorem writesTree_of_toNative {n : String} {x : Object} {tree : Tree}
    (h : (ts.objectCodec ts.nesting n).toNative o (.object x) = .ok (.config tree)) :
    ts.WritesTree o n x tree := by
  have hdeeper : (ts.objectCodec (ts.nesting + 1) n).toNative o (.object x) = .ok (.config tree) :=
    Result.yields_eq_iff.mp (objectCodec_yields (Nat.le_succ _) n (.object x)) _ h
  rw [objectCodec] at hdeeper
  cases hfind : ts.find? n with
  | none =>
    rw [hfind] at hdeeper
    cases hdeeper
  | some t =>
    rw [hfind] at hdeeper
    obtain ⟨tree', htree, htree'⟩ := Result.map_eq_ok.mp hdeeper
    cases htree'
    exact ⟨t, hfind, htree⟩

end TypeTable

end Depth

/-! ## What is stored for containers of objects -/

namespace TypeTable

variable {ts : TypeTable} {o : Options} {n : String} {type : MemberType}

/-- What becomes of data of a type that is built around the object type of a name. -/
structure ConvertsOnce (ts : TypeTable) (o : Options) (n : String) (type : MemberType) : Prop where
  /-- A datum is converted just if the objects in it are, and then into what their trees make of its
  structure. -/
  converted : ∀ d v, (ts.codec type).write o d = .ok v
    ↔ type.Assembled
      (fun x tree => (ts.codec (.object n)).write o (.object x) = .ok (.config tree)) d v
  /-- These trees are what the objects are written as by themselves. -/
  trees : ∀ x tree, (ts.codec (.object n)).write o (.object x) = .ok (.config tree) →
    ts.WritesTree o n x tree
  /-- Nothing that is in the trees is converted again. -/
  untouched : ∀ treeOf d v, type.Assembled treeOf d v → o.registry.write v type.constraint = .ok v
  /-- For a member of the type, what is stored is assembled so from its own datum, or from the
  default that takes its place. -/
  stored : ∀ (t : ObjectType MemberType), ∀ m ∈ t.schema.members, m.type = type → ∀ x d v,
    (m.mapType ts.codec).toWrite o x = .ok (some (d, v)) →
    (m.mapType ts.codec).WrittenAs o x d ∧ type.Assembled (ts.WritesTree o n) d v
  /-- Under distinct keys this is what the tree of the object holds for the member, unless the
  member is skipped. -/
  entry : ∀ (t : ObjectType MemberType), (t.schema.members.map (·.key o)).Nodup → ∀ x tree,
    (ts.compile t).schema.toTree o x = .ok tree → ∀ m ∈ t.schema.members, m.type = type →
    o.includes m = true → (m.mapType ts.codec).skipsWriting o x = .ok true
      ∨ ∃ d v, (m.mapType ts.codec).WrittenAs o x d ∧ tree.get? (m.key o) = some v
        ∧ type.Assembled (ts.WritesTree o n) d v

theorem toNative_assembled (htype : type.IsAround n) {d : Datum} {v : Value} :
    (ts.codec type).toNative o d = .ok v ↔ type.Assembled (fun x tree =>
      (ts.objectCodec ts.nesting n).toNative o (.object x) = .ok (.config tree)) d v :=
  MemberType.toNative_eq_ok htype fun _ _ => objectCodec_eq_ok

theorem write_assembled (hregistry : o.registry.TakesOnlyScalars) (htype : type.IsAround n)
    {d : Datum} {v : Value} :
    (ts.codec type).write o d = .ok v ↔ type.Assembled (fun x tree =>
      (ts.objectCodec ts.nesting n).toNative o (.object x) = .ok (.config tree)) d v := by
  rw [Codec.write, Result.bind_eq_ok]
  constructor
  · rintro ⟨native, hnative, hwrite⟩
    have hassembled := (toNative_assembled htype).mp hnative
    rw [codec_constraint, Registry.write_assembled hregistry htype hassembled] at hwrite
    exact Except.ok.inj hwrite ▸ hassembled
  · intro h
    refine ⟨v, (toNative_assembled htype).mpr h, ?_⟩
    rw [codec_constraint]
    exact Registry.write_assembled hregistry htype h

/-- Nested objects are converted exactly once. -/
theorem converts_once (hregistry : o.registry.TakesOnlyScalars) (htype : type.IsAround n) :
    ts.ConvertsOnce o n type := by
  have hobject : ∀ x tree, (ts.codec (.object n)).write o (.object x) = .ok (.config tree)
      ↔ (ts.objectCodec ts.nesting n).toNative o (.object x) = .ok (.config tree) := by
    intro x tree
    have hself : (MemberType.object n).IsAround n := rfl
    rw [write_assembled hregistry hself]
    constructor
    · rintro ⟨_, _, ⟨⟩, ⟨⟩, h⟩
      exact h
    · exact fun h => ⟨x, tree, rfl, rfl, h⟩
  have hstored : ∀ {m : Member MemberType}, m.type = type → ∀ {x d v},
      (m.mapType ts.codec).toWrite o x = .ok (some (d, v)) →
      (m.mapType ts.codec).WrittenAs o x d ∧ type.Assembled (ts.WritesTree o n) d v := by
    rintro m rfl x d v htoWrite
    rcases Member.toWrite_cases htoWrite with ⟨-, h⟩ | ⟨d', v', -, hwritten, -, hwrite, h⟩
    · cases h
    · cases h
      refine ⟨hwritten, ((write_assembled hregistry htype).mp hwrite).imp fun x tree => ?_⟩
      exact writesTree_of_toNative
  refine ⟨fun d v => ?_, fun x tree h => writesTree_of_toNative ((hobject x tree).mp h),
    fun treeOf d v => Registry.write_assembled hregistry htype,
    fun t m _ hm x d v => hstored hm, fun t hkeys x tree htree m hm htypeOf hincluded => ?_⟩
  · simp only [hobject]
    exact write_assembled hregistry htype
  · have hmember : m.mapType ts.codec ∈ (ts.compile t).schema.members := List.mem_map_of_mem hm
    have hkeys' : ((ts.compile t).schema.members.map (·.key o)).Nodup := by
      show ((t.schema.members.map (·.mapType ts.codec)).map (·.key o)).Nodup
      rw [List.map_map]
      exact hkeys
    obtain ⟨htoWrite, rfl⟩ := Schema.toTree_eq_ok.mp htree
    obtain ⟨r, hr⟩ := htoWrite _ (List.mem_filter.mpr ⟨hmember, hincluded⟩)
    rcases Member.toWrite_cases hr with ⟨hskips, -⟩ | ⟨d, v, -, -, -, -, rfl⟩
    · exact .inl hskips
    · obtain ⟨hwritten, hassembled⟩ := hstored htypeOf hr
      have hdeposit : ⟨m.mapType ts.codec, d, v⟩ ∈ (ts.compile t).schema.deposits o x :=
        Schema.mem_deposits.mpr ⟨hmember, hincluded, hr⟩
      exact .inr ⟨d, v, hwritten,
        ((Deposit.rewritten_putAll (Schema.nodup_deposits hkeys') Tree.empty).written _ hdeposit).1,
        hassembled⟩

end TypeTable

/-! ## Fleets

A fleet has ships in some of its berths, and ships by name. Every text of it is marked when it is
written.
-/

namespace Example

/-- The serializer that marks texts. -/
def marking : Serializer where
  name := "marking"
  accepts v _ := v.isString
  convert _ v _ :=
    match v with
    | .string s => .ok (.string (s ++ "!"))
    | v => .ok v

/-- The options of a run that marks texts. -/
def markingOptions : Options := { registry := Registry.builtin.registerSerializer marking }

theorem markingOptions_takesOnlyScalars : markingOptions.registry.TakesOnlyScalars := by
  intro s hs v c haccepts
  obtain rfl : s = marking := List.mem_singleton.mp hs
  cases v with
  | string => rfl
  | _ => cases haccepts

/-- The type of ships. -/
def shipType : ObjectType MemberType where
  name := "Ship"
  slots := [⟨"flag", .string, .string ""⟩]
  schema := ((SchemaBuilder.start "Ship").field "flag" "flag" .string
    (MemberRules.add {} (.comment "Where it comes from"))).build

/-- The type of fleets. -/
def fleetType : ObjectType MemberType where
  name := "Fleet"
  slots := [⟨"berths", .list (.option (.object "Ship")), .list []⟩,
    ⟨"ships", .map .indexed (.object "Ship"), .map .indexed []⟩]
  schema := (((SchemaBuilder.start "Fleet").field "berths" "berths"
    (.list (.option (.object "Ship"))) {}).field "ships" "ships" (.map .indexed (.object "Ship"))
    {}).build

/-- The table of these types. -/
def fleetTypes : TypeTable := { types := [shipType, fleetType] }

/-- A ship. -/
def ship (flag : String) : Object := ⟨"Ship", [("flag", .string flag)]⟩

/-- A fleet with an empty berth. -/
def fleet : Object :=
  ⟨"Fleet", [("berths", .list [.just (.object (ship "no")), .nothing]),
    ("ships", .map .indexed [("Ida", .object (ship "dk")), ("Eva", .object (ship "se"))])]⟩

/-- What a ship is written as. -/
def shipTree (flag : String) : Tree :=
  ⟨[("flag", .string flag)], [("flag", "Where it comes from")]⟩

/-- Texts in ships are marked once, in berths and by name. -/
theorem converts_once_fleet :
    fleetTypes.ConvertsOnce markingOptions "Ship" (.list (.option (.object "Ship")))
      ∧ fleetTypes.ConvertsOnce markingOptions "Ship" (.map .indexed (.object "Ship"))
      ∧ (fleetTypes.compile fleetType).schema.toTree markingOptions fleet
        = .ok ⟨[("berths", .list [.config (shipTree "no!"), .null]),
          ("ships", .config ⟨[("Ida", .config (shipTree "dk!")), ("Eva", .config (shipTree "se!"))],
            []⟩)], []⟩ :=
  ⟨TypeTable.converts_once markingOptions_takesOnlyScalars rfl,
    TypeTable.converts_once markingOptions_takesOnlyScalars rfl, rfl⟩

end Example

end ConfigBinding
