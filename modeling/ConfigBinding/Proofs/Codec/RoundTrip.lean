import ConfigBinding.Proofs.Codec.Reading
import ConfigBinding.Proofs.Numeric.Lossless
import ConfigBinding.Proofs.Object.Typing

/-!
# The way into a native form and back

With the built-in converters, a datum is read back from its native form if its type is faithful
(`MemberType.roundTrips`). Every type goes its own way there: wide integers are big integers on the
way, single precision is double precision, and what is optional is only told from nothing because
its native form is not the null marker.

Objects are taken for granted here. What is required of their codecs is the same for objects of
less depth, so that the objects of a table can be dealt with by induction on the depth.
-/

namespace ConfigBinding

open Numeric

namespace MemberType

/-- Whether the native form of a datum of the type may be the null marker. -/
def mayBeNull : MemberType → Bool
  | .option _ | .value | .described _ => true
  | _ => false

/-- Whether the type's data are told apart by their native forms: what is optional has never the
null marker as its native form. Types that describe themselves have a condition of their own
(`Bridge.DataType.isFaithful`) and are left out. -/
def isFaithful : MemberType → Bool
  | .option t => !t.mayBeNull && t.isFaithful
  | .list t | .map _ t => t.isFaithful
  | .described _ => false
  | _ => true

end MemberType

/-- The null marker is the native form of no object. -/
def NeverNull (objects : String → Codec) (o : Options) : Prop :=
  ∀ n d v, (objects n).toNative o d = .ok v → v.isNull = false

theorem MemberType.isNull_toNative {objects : String → Codec} {o : Options}
    (hobjects : NeverNull objects o) {t : MemberType} (ht : t.mayBeNull = false) {d : Datum}
    {v : Value} (h : (t.codecWith objects).toNative o d = .ok v) : v.isNull = false := by
  cases t with
  | option | value | described => cases ht
  | object n => exact hobjects n d v h
  | integer type =>
    cases d with
    | integer n =>
      obtain rfl := Except.ok.inj h
      exact Value.isNull_ofInt n
    | _ => cases h
  | list t =>
    cases d with
    | list items =>
      obtain ⟨vs, -, rfl⟩ := Result.map_eq_ok.mp h
      rfl
    | _ => cases h
  | map kind t =>
    cases d with
    | map entries =>
      obtain ⟨vs, -, hv⟩ := Result.bind_eq_ok.mp h
      obtain rfl := Except.ok.inj hv
      rfl
    | _ => cases h
  | _ =>
    cases d <;> cases h
    rfl

/-- A datum has a native form, and is read back from it. -/
def Codec.RoundTrips (c : Codec) (o : Options) (d : Datum) : Prop :=
  ∃ v, c.toNative o d = .ok v ∧ c.readValue o v = .ok d

/-! ## Integers -/

theorem Value.toRat?_ofInt (n : Int) : (ofInt n).toRat? = some (n : ℚ) := by
  rw [ofInt]
  split
  · rename_i h
    rw [toRat?, Int64.toInt_ofInt_of_le h.1 h.2]
  · rfl

theorem Value.toWhole?_ofInt (n : Int) : (ofInt n).toWhole? = some n := by
  rw [ofInt]
  split
  · rename_i h
    rw [toWhole?, Number.toInt64?, Option.map_some, Int64.toInt_ofInt_of_le h.1 h.2]
  · rfl

/-- The numbers of a pointer's width are those of 64 bits. -/
theorem Codec.contains_wideRange (type : IntType) (n : Int) :
    (wideRange type).contains n = type.contains n := by
  cases type <;> rfl

namespace Codec

variable {o : Options}

theorem roundTrips_integer (ho : o.registry.IsBuiltin) {type : IntType} {n : Int}
    (h : type.contains n = true) : (integer type).RoundTrips o (.integer n) := by
  refine ⟨.ofInt n, rfl, ?_⟩
  cases hwide : type.isWide with
  | true =>
    have hcontains := (contains_wideRange type n).trans h
    exact (readValue_wide ho hwide).mpr ⟨n, Value.toWhole?_ofInt n, hcontains, rfl⟩
  | false => exact (readValue_integer ho hwide).mpr ⟨n, Value.toRat?_ofInt n, h, rfl⟩

/-! ## Containers -/

theorem roundTrips_list (ho : o.registry.IsBuiltin) {c : Codec} {ds : List Datum}
    (h : ∀ d ∈ ds, c.RoundTrips o d) : (list c).RoundTrips o (.list ds) := by
  obtain ⟨vs, hvs⟩ := exists_forall₂ h
  have hnative : ds.mapM (c.toNative o) = .ok vs :=
    Result.mapM_eq_ok.mpr (hvs.imp fun _ _ h => h.1)
  have hread : List.Forall₂ (fun v d => c.readValue o v = .ok d) vs ds :=
    (hvs.imp fun _ _ h => h.2).flip
  refine ⟨.list vs, ?_, (readValue_list ho).mpr ⟨vs, ds, rfl, rfl, hread⟩⟩
  exact Result.map_eq_ok.mpr ⟨vs, hnative, rfl⟩

theorem roundTrips_map (ho : o.registry.IsBuiltin) {c : Codec} {kind : MapKind}
    {entries : List (String × Datum)} (horder : kind.arrange entries = entries)
    (h : ∀ p ∈ entries, c.RoundTrips o p.2) : (map kind c).RoundTrips o (.map kind entries) := by
  have hpartner : ∀ p ∈ entries, ∃ q : String × Value,
      (p.1 = q.1 ∧ c.toNative o p.2 = .ok q.2) ∧ q.1 = p.1 ∧ c.readValue o q.2 = .ok p.2 := by
    intro p hp
    obtain ⟨v, hnative, hread⟩ := h p hp
    exact ⟨(p.1, v), ⟨rfl, hnative⟩, rfl, hread⟩
  obtain ⟨natives, hnatives⟩ := exists_forall₂ hpartner
  have hnative := (Result.mapM_values_eq_ok (f := c.toNative o)).mpr (hnatives.imp fun _ _ h => h.1)
  have hread : List.Forall₂ (fun q p => q.1 = p.1 ∧ c.readValue o q.2 = .ok p.2) natives entries :=
    (hnatives.imp fun _ _ h => h.2).flip
  refine ⟨.config ⟨natives, []⟩, Result.bind_eq_ok.mpr ⟨natives, hnative, rfl⟩, ?_⟩
  exact (readValue_map ho).mpr ⟨_, entries, rfl, by rw [horder], hread⟩

end Codec

/-! ## Types of members -/

/-- With the built-in converters a datum of a faithful type is read back from its native form, if
objects of less depth are. -/
theorem MemberType.roundTrips {ts : TypeTable} {objects : String → Codec} {o : Options}
    {nesting : Nat} (ho : o.registry.IsBuiltin) (hnull : NeverNull objects o)
    (hobjects : ∀ n x, (Datum.object x).HasType ts (.object n) → x.depth < nesting →
      (objects n).RoundTrips o (.object x))
    {t : MemberType} {d : Datum} (h : d.HasType ts t) (ht : t.isFaithful = true)
    (hdepth : d.depth ≤ nesting) : (t.codecWith objects).RoundTrips o d := by
  induction h with
  | bool b => exact ⟨.bool b, rfl, (Codec.readValue_bool ho).mpr ⟨b, rfl, rfl⟩⟩
  | integer h => exact Codec.roundTrips_integer ho h
  | single x =>
    refine ⟨.number (.float (x.convert .double)), rfl, (Codec.readValue_single ho).mpr ?_⟩
    exact ⟨x.convert .double, rfl, by rw [Binary.convert_single_double]⟩
  | double x => exact ⟨.number (.float x), rfl, (Codec.readValue_double ho).mpr ⟨x, rfl, rfl⟩⟩
  | char c => exact ⟨_, rfl, (Codec.readValue_char ho).mpr ⟨c, rfl, rfl⟩⟩
  | string s => exact ⟨.string s, rfl, (Codec.readValue_string ho).mpr ⟨s, rfl, rfl⟩⟩
  | dateTime t => exact ⟨.dateTime t, rfl, (Codec.readValue_dateTime ho).mpr ⟨t, rfl, .inl rfl⟩⟩
  | bigInt n => exact ⟨.bigInt n, rfl, (Codec.readValue_bigInt ho).mpr ⟨n, rfl, rfl⟩⟩
  | value v => exact ⟨v, rfl, (Codec.readValue_value ho).mpr rfl⟩
  | tree t => exact ⟨.config t, rfl, (Codec.readValue_tree ho).mpr ⟨t, rfl, rfl⟩⟩
  | nothing => exact ⟨.null, rfl, (Codec.readValue_option ho).mpr (.inl ⟨rfl, rfl⟩)⟩
  | just _ ih =>
    obtain ⟨hcontent, ht⟩ := Bool.and_eq_true_iff.mp ht
    obtain ⟨v, hnative, hread⟩ := ih ht hdepth
    have hv := isNull_toNative hnull (by simpa using hcontent) hnative
    exact ⟨v, hnative, (Codec.readValue_option ho).mpr (.inr ⟨hv, _, rfl, hread⟩)⟩
  | list _ ih =>
    exact Codec.roundTrips_list ho fun d hd =>
      ih d hd ht (Nat.le_trans (depth_le_itemsDepth hd) hdepth)
  | map _ horder _ ih =>
    exact Codec.roundTrips_map ho horder fun p hp =>
      ih p hp ht (Nat.le_trans (depth_le_slotsDepth hp) hdepth)
  | described => cases ht
  | @object n t x hfind hname hkeys hslots =>
    rw [Datum.depth_object] at hdepth
    exact hobjects n x (.object hfind hname hkeys hslots) hdepth

end ConfigBinding
