import ConfigBinding.Proofs.Codec.RoundTrip
import ConfigBinding.Proofs.Schema.NestedObjects

/-!
# What the shape check is worth

Before a value is read as a type, its shape is checked against the constraint of the type. The
constraint, the way into the native form and the way back are three definitions for each type, and
here they are compared.

The check refuses nothing that the type itself produces: all native forms of its data have the shape
(`MemberType.accepts_of_toNative`). And it leaves nothing to be refused for its shape: a value that
has the shape is read, unless an integer in it lies outside the range of its type
(`MemberType.readsInRange`). For the latter the type must be built without objects, whose members
have rules of their own, and without described types, whose constraint accepts everything.
-/

namespace ConfigBinding

open Numeric

/-! ## Integers at any depth -/

/-- Whether the type is built without objects and described types. -/
def MemberType.isStructural : MemberType → Bool
  | .option t | .list t | .map _ t => t.isStructural
  | .described _ | .object _ => false
  | _ => true

/-- When the value is read as the type, an integer in it is read as one of an integer type. -/
inductive IntegerLeaf : MemberType → Value → IntType → Int → Prop where
  | number {type : IntType} (n : Int64) :
    IntegerLeaf (.integer type) (.number (.integer n)) type n.toInt
  | bigInt {type : IntType} (n : Int) : IntegerLeaf (.integer type) (.bigInt n) type n
  | content {t : MemberType} {v : Value} {type : IntType} {n : Int} (hnull : v.isNull = false)
    (h : IntegerLeaf t v type n) : IntegerLeaf (.option t) v type n
  | item {t : MemberType} {items : List Value} {v : Value} {type : IntType} {n : Int}
    (hmem : v ∈ items) (h : IntegerLeaf t v type n) : IntegerLeaf (.list t) (.list items) type n
  | entry {kind : MapKind} {t : MemberType} {tree : Tree} {p : String × Value} {type : IntType}
    {n : Int} (hmem : p ∈ tree.entries) (h : IntegerLeaf t p.2 type n) :
    IntegerLeaf (.map kind t) (.config tree) type n

namespace IntegerLeaf

variable {t : MemberType} {v : Value} {type : IntType} {n : Int}

theorem option_iff (hnull : v.isNull = false) :
    IntegerLeaf (.option t) v type n ↔ IntegerLeaf t v type n := by
  refine ⟨fun h => ?_, .content hnull⟩
  cases h with
  | content _ h => exact h

theorem list_iff {items : List Value} :
    IntegerLeaf (.list t) (.list items) type n ↔ ∃ v ∈ items, IntegerLeaf t v type n := by
  refine ⟨fun h => ?_, fun ⟨_, hmem, h⟩ => .item hmem h⟩
  cases h with
  | item hmem h => exact ⟨_, hmem, h⟩

theorem map_iff {kind : MapKind} {tree : Tree} :
    IntegerLeaf (.map kind t) (.config tree) type n
      ↔ ∃ p ∈ tree.entries, IntegerLeaf t p.2 type n := by
  refine ⟨fun h => ?_, fun ⟨_, hmem, h⟩ => .entry hmem h⟩
  cases h with
  | entry hmem h => exact ⟨_, hmem, h⟩

end IntegerLeaf

/-- The step succeeds if some integers are in the ranges of their types. If it fails, then for one
of them that is not. -/
structure ReadsInRange {α : Type} (among : IntType → Int → Prop) (r : Result α) : Prop where
  reads : (∃ a, r = .ok a) ↔ ∀ type n, among type n → type.contains n = true
  fails : ∀ e, r = .error e → ∃ type n, among type n ∧ type.contains n = false
    ∧ e = .ofFault (.outOfRange n (Codec.wideRange type).name)

namespace ReadsInRange

variable {α β : Type} {among among' : IntType → Int → Prop} {r : Result α}

theorem of_ok (hnone : ∀ type n, ¬ among type n) {a : α} (h : r = .ok a) : ReadsInRange among r where
  reads := ⟨fun _ type n hn => absurd hn (hnone type n), fun _ => ⟨a, h⟩⟩
  fails e he := by
    rw [h] at he
    cases he

theorem congr (h : ReadsInRange among r) (hamong : ∀ type n, among' type n ↔ among type n) :
    ReadsInRange among' r := by
  obtain rfl : among' = among := funext fun type => funext fun n => propext (hamong type n)
  exact h

theorem map (h : ReadsInRange among r) (f : α → β) : ReadsInRange among (f <$> r) where
  reads := by
    rw [← h.reads]
    constructor
    · rintro ⟨b, hb⟩
      obtain ⟨a, ha, -⟩ := Result.map_eq_ok.mp hb
      exact ⟨a, ha⟩
    · rintro ⟨a, ha⟩
      exact ⟨f a, Result.map_eq_ok.mpr ⟨a, ha, rfl⟩⟩
  fails e he := h.fails e (Result.map_eq_error.mp he)

/-- A run over a list has the integers of all items. -/
theorem mapM {among : β → IntType → Int → Prop} {f : β → Result α} {xs : List β}
    (h : ∀ x ∈ xs, ReadsInRange (among x) (f x)) :
    ReadsInRange (fun type n => ∃ x ∈ xs, among x type n) (xs.mapM f) where
  reads := by
    rw [Result.exists_mapM_eq_ok]
    constructor
    · rintro hreads type n ⟨x, hx, hn⟩
      exact (h x hx).reads.mp (hreads x hx) type n hn
    · exact fun hrange x hx => (h x hx).reads.mpr fun type n hn => hrange type n ⟨x, hx, hn⟩
  fails e he := by
    obtain ⟨x, hx, hfails⟩ := Result.exists_of_mapM_eq_error he
    obtain ⟨type, n, hn, hrange, heq⟩ := (h x hx).fails e hfails
    exact ⟨type, n, ⟨x, hx, hn⟩, hrange, heq⟩

/-- The check of a range has one integer. -/
theorem checkRange (type : IntType) (n : Int) :
    ReadsInRange (fun type' n' => type' = type ∧ n' = n)
      (Codec.checkRange (Codec.wideRange type) n) where
  reads := by
    rw [Codec.checkRange, Codec.contains_wideRange]
    by_cases hrange : type.contains n = true
    · rw [if_pos hrange]
      refine iff_of_true ⟨_, rfl⟩ ?_
      rintro _ _ ⟨rfl, rfl⟩
      exact hrange
    · rw [if_neg hrange]
      refine iff_of_false ?_ fun hall => hrange (hall type n ⟨rfl, rfl⟩)
      rintro ⟨_, hok⟩
      cases hok
  fails e he := by
    rw [Codec.checkRange, Codec.contains_wideRange] at he
    split at he
    · cases he
    · rename_i hrange
      exact ⟨type, n, ⟨rfl, rfl⟩, Bool.eq_false_iff.mpr hrange, (Except.error.inj he).symm⟩

end ReadsInRange

/-! ## From the native form -/

theorem IntegerLeaf.number_iff {type type' : IntType} {i : Int64} {n : Int} :
    IntegerLeaf (.integer type) (.number (.integer i)) type' n ↔ type' = type ∧ n = i.toInt := by
  constructor
  · rintro ⟨⟩
    exact ⟨rfl, rfl⟩
  · rintro ⟨rfl, rfl⟩
    exact .number i

theorem IntegerLeaf.bigInt_iff {type type' : IntType} {n n' : Int} :
    IntegerLeaf (.integer type) (.bigInt n) type' n' ↔ type' = type ∧ n' = n := by
  constructor
  · rintro ⟨⟩
    exact ⟨rfl, rfl⟩
  · rintro ⟨rfl, rfl⟩
    exact .bigInt n'

/-- An integer is read from whatever has the shape of its type, if it is in range. -/
theorem Codec.readsInRange_integer {type : IntType} {v : Value} {o : Options}
    (h : (integer type).constraint.accepts v = true) :
    ReadsInRange (IntegerLeaf (.integer type) v) ((integer type).fromNative o v) := by
  cases hwide : type.isWide with
  | true =>
    rw [constraint_of_isWide hwide] at h
    rw [fromNative_of_isWide hwide]
    rcases Constraint.accepts_bigInt.mp h with ⟨n, rfl⟩ | ⟨i, rfl⟩
    · exact (ReadsInRange.checkRange type n).congr fun _ _ => IntegerLeaf.bigInt_iff
    · exact (ReadsInRange.checkRange type i.toInt).congr fun _ _ => IntegerLeaf.number_iff
  | false =>
    rw [constraint_of_not_isWide hwide] at h
    obtain ⟨i, rfl⟩ := Constraint.accepts_integer.mp h
    -- the range is checked against the type itself, since only a wide one is checked against another
    have hself : wideRange type = type := by cases type <;> first | rfl | cases hwide
    have hcheck := ReadsInRange.checkRange type i.toInt
    rw [hself] at hcheck
    rw [fromNative_of_not_isWide hwide]
    exact hcheck.congr fun _ _ => IntegerLeaf.number_iff

/-- A value that has the shape of a type is read, unless an integer in it is out of range. -/
theorem MemberType.readsInRange {t : MemberType} {objects : String → Codec} {o : Options} {v : Value}
    (ht : t.isStructural = true) (h : t.constraint.accepts v = true) :
    ReadsInRange (IntegerLeaf t v) ((t.codecWith objects).fromNative o v) := by
  induction t generalizing v with
  | integer type => exact Codec.readsInRange_integer h
  | bool =>
    obtain ⟨b, rfl⟩ := Constraint.accepts_bool.mp h
    exact .of_ok (fun _ _ h => by cases h) rfl
  | single =>
    obtain ⟨n, rfl⟩ := Constraint.accepts_float.mp h
    exact .of_ok (fun _ _ h => by cases h) rfl
  | double =>
    obtain ⟨n, rfl⟩ := Constraint.accepts_float.mp h
    exact .of_ok (fun _ _ h => by cases h) rfl
  | char =>
    obtain ⟨s, rfl, hlength⟩ := Constraint.accepts_char.mp h
    obtain ⟨c, hc⟩ := List.length_eq_one_iff.mp hlength
    have hread : Codec.char.fromNative o (.string s) = .ok (.char c) := by
      simp only [Codec.char, hc]
    exact .of_ok (fun _ _ h => by cases h) hread
  | string =>
    obtain ⟨s, rfl⟩ := Constraint.accepts_string.mp h
    exact .of_ok (fun _ _ h => by cases h) rfl
  | dateTime =>
    obtain ⟨t, rfl⟩ := Constraint.accepts_dateTime.mp h
    exact .of_ok (fun _ _ h => by cases h) rfl
  | bigInt =>
    rcases Constraint.accepts_bigInt.mp h with ⟨n, rfl⟩ | ⟨i, rfl⟩
    · exact .of_ok (fun _ _ h => by cases h) rfl
    · exact .of_ok (fun _ _ h => by cases h) rfl
  | value => exact .of_ok (fun _ _ h => by cases h) rfl
  | tree =>
    obtain ⟨t, rfl⟩ := Constraint.accepts_config.mp h
    exact .of_ok (fun _ _ h => by cases h) rfl
  | option t ih =>
    cases hnull : v.isNull with
    | true =>
      have hread : ((MemberType.option t).codecWith objects).fromNative o v = .ok .nothing :=
        if_pos hnull
      refine .of_ok (fun type n hn => ?_) hread
      cases hn with
      | content hcontent _ => cases hnull.symm.trans hcontent
    | false =>
      have hcontent : t.constraint.accepts v = true :=
        (Constraint.accepts_optional.mp h).resolve_left (Bool.eq_false_iff.mp hnull)
      have hread : ((MemberType.option t).codecWith objects).fromNative o v
          = Datum.just <$> (t.codecWith objects).fromNative o v :=
        if_neg (Bool.eq_false_iff.mp hnull)
      rw [hread]
      exact ((ih ht hcontent).map Datum.just).congr fun _ _ => IntegerLeaf.option_iff hnull
  | list t ih =>
    obtain ⟨items, rfl, hitems⟩ := Constraint.accepts_list.mp h
    have hrun := ReadsInRange.mapM fun v hmem => ih ht (hitems v hmem)
    exact (hrun.map Datum.list).congr fun _ _ => IntegerLeaf.list_iff
  | map kind t ih =>
    obtain ⟨tree, rfl, hentries⟩ := Constraint.accepts_map.mp h
    have hrun := ReadsInRange.mapM fun p hmem => (ih ht (hentries p hmem)).map (Prod.mk p.1)
    have hread : ((MemberType.map kind t).codecWith objects).fromNative o (.config tree)
        = (fun entries => Datum.map kind (kind.arrange entries)) <$>
          tree.entries.mapM fun p => Prod.mk p.1 <$> (t.codecWith objects).fromNative o p.2 := by
      simp only [MemberType.codecWith, Codec.map, bind_pure_comp]
    rw [hread]
    exact (hrun.map _).congr fun _ _ => IntegerLeaf.map_iff
  | described | object => cases ht

/-! ## Into the native form -/

theorem Codec.accepts_ofInt {type : IntType} {n : Int} (h : type.contains n = true) :
    (integer type).constraint.accepts (.ofInt n) = true := by
  cases hwide : type.isWide with
  | true =>
    rw [constraint_of_isWide hwide, Value.ofInt]
    split
    · rfl
    · rfl
  | false =>
    rw [constraint_of_not_isWide hwide, Value.ofInt, if_pos (bounds_of_not_isWide hwide h)]
    rfl

/-- The native form of a datum has the shape of its type, if those of objects are trees. -/
theorem MemberType.accepts_of_toNative {ts : TypeTable} {t : MemberType} {objects : String → Codec}
    {o : Options} {d : Datum} {v : Value}
    (hobjects : ∀ n d v, (objects n).toNative o d = .ok v → ∃ tree, v = .config tree)
    (hd : d.HasType ts t) (hv : (t.codecWith objects).toNative o d = .ok v) :
    t.constraint.accepts v = true := by
  induction hd generalizing v with
  | integer h =>
    obtain rfl := Except.ok.inj hv
    exact Codec.accepts_ofInt h
  | just _ ih => exact Constraint.accepts_optional.mpr (.inr (ih hv))
  | list _ ih =>
    obtain ⟨ds, vs, hlist, rfl, hitems⟩ := Codec.toNative_list_eq_ok.mp hv
    obtain rfl := Datum.list.inj hlist
    refine Constraint.accepts_list.mpr ⟨vs, rfl, fun w hw => ?_⟩
    obtain ⟨d, hmem, hnative⟩ := exists_of_forall₂ hitems hw
    exact ih d hmem hnative
  | map _ _ _ ih =>
    obtain ⟨held, ds, vs, hmap, rfl, helements⟩ := Codec.toNative_map_eq_ok.mp hv
    obtain ⟨rfl, rfl⟩ := Datum.map.inj hmap
    refine Constraint.accepts_map.mpr ⟨⟨vs, []⟩, rfl, fun q hq => ?_⟩
    obtain ⟨p, hmem, -, hnative⟩ := exists_of_forall₂ helements hq
    exact ih p hmem hnative
  | described => rfl
  | object =>
    obtain ⟨tree, rfl⟩ := hobjects _ _ _ hv
    rfl
  | char c =>
    obtain rfl := Except.ok.inj hv
    exact Constraint.accepts_char.mpr ⟨_, rfl, by simp⟩
  | _ =>
    obtain rfl := Except.ok.inj hv
    rfl

/-! ## The two together -/

/-- What the shape check says about a value for a type of members. -/
structure ShapeCheck (ts : TypeTable) (t : MemberType) : Prop where
  /-- Native forms of data of the type have the shape. -/
  sound : ∀ o d n, d.HasType ts t → (ts.codec t).toNative o d = .ok n →
    t.constraint.accepts n = true
  /-- Without objects and described types, a value that has the shape is read if all integers in it
  are in range, and otherwise is out of range for one of them. -/
  complete : t.isStructural = true → ∀ o n, t.constraint.accepts n = true →
    ReadsInRange (IntegerLeaf t n) ((ts.codec t).fromNative o n)

/-- The shape check lets all native forms of a type pass, and leaves only the ranges of integers to
be checked. -/
theorem TypeTable.shapeCheck (ts : TypeTable) (t : MemberType) : ShapeCheck ts t where
  sound o d n hd hn := by
    refine MemberType.accepts_of_toNative (fun n d v h => ?_) hd hn
    obtain ⟨_, tree, _, hv, _⟩ := objectCodec_eq_ok.mp h
    exact ⟨tree, hv⟩
  complete ht o n h := MemberType.readsInRange ht h

namespace Example

/-- Lists of optional bytes under keys have the shape, and are not read because of one byte. -/
theorem shapeCheck_bytes :
    let t := MemberType.map .indexed (.list (.option (.integer .u8)))
    let bytes := Value.config ⟨[("a", .list [.null, .number (.integer 300)])], []⟩
    t.constraint.accepts bytes = true
      ∧ ¬ ∃ d, (({} : TypeTable).codec t).fromNative {} bytes = .ok d := by
  intro t bytes
  have haccepts : t.constraint.accepts bytes = true := by decide
  have hleaf : IntegerLeaf t bytes .u8 300 :=
    .entry List.mem_cons_self (.item (List.mem_cons_of_mem _ List.mem_cons_self)
      (.content rfl (.number 300)))
  refine ⟨haccepts, fun hread => ?_⟩
  have hrange := ((TypeTable.shapeCheck {} t).complete rfl {} bytes haccepts).reads.mp hread _ _ hleaf
  cases hrange

end Example

end ConfigBinding
