import ConfigBinding.Proofs.Rule.Observed
import ConfigBinding.Proofs.Schema.NestedObjects

/-!
# Native forms

What the native form of a datum looks like can be told from the kind of the datum, whatever its type
is declared to be: a list becomes a list of as many values, an object becomes a tree, and something
optional becomes what its content becomes. Only described data may become any value
(`Datum.ShapedAs`).

A datum also says by itself whether it is null, and whether it is empty. It does not look inside for
that, so what it says can be compared with its native form, kind by kind:

* It is null if it becomes the null marker, unless it wraps something that does (`Datum.Wraps`).
* It is empty if it becomes something empty. Described data and objects do not know whether they
  are, and neither does something optional that holds such data (`Datum.HidesEmptiness`).
-/

namespace ConfigBinding

open Numeric Time

/-! ## What data become -/

namespace Datum

/-- What the native form of a datum looks like, as far as its kind says. -/
inductive ShapedAs : Datum → Value → Prop where
  | bool (b : Bool) : ShapedAs (.bool b) (.bool b)
  | integer (n : Int) : ShapedAs (.integer n) (.ofInt n)
  | single (x : Binary32) : ShapedAs (.single x) (.number (.float (x.convert .double)))
  | double (x : Binary64) : ShapedAs (.double x) (.number (.float x))
  | char (c : Char) : ShapedAs (.char c) (.string (String.ofList [c]))
  | string (s : String) : ShapedAs (.string s) (.string s)
  | dateTime (t : Instant) : ShapedAs (.dateTime t) (.dateTime t)
  | bigInt (n : Int) : ShapedAs (.bigInt n) (.bigInt n)
  | value (v : Value) : ShapedAs (.value v) v
  | tree (t : Tree) : ShapedAs (.tree t) (.config t)
  | nothing : ShapedAs .nothing .null
  /-- Being optional leaves no trace. -/
  | just {content : Datum} {v : Value} (h : ShapedAs content v) : ShapedAs (.just content) v
  | list {ds : List Datum} {vs : List Value} (hlength : ds.length = vs.length) :
    ShapedAs (.list ds) (.list vs)
  | map {kind : MapKind} {ds : List (String × Datum)} {vs : List (String × Value)}
    (hlength : ds.length = vs.length) : ShapedAs (.map kind ds) (.config ⟨vs, []⟩)
  /-- Described data may become any value. -/
  | described (type : Bridge.DataType) (data : Bridge.Data) (v : Value) :
    ShapedAs (.described type data) v
  | object (x : Object) (tree : Tree) : ShapedAs (.object x) (.config tree)

/-- The native form of the datum is made from something inside, which the datum does not ask whether
it is null. -/
inductive Wraps : Datum → Prop where
  | just (content : Datum) : Wraps (.just content)
  | described (type : Bridge.DataType) (data : Bridge.Data) : Wraps (.described type data)

/-- The datum does not know whether it is empty, although its native form may be. -/
inductive HidesEmptiness : Datum → Prop where
  | described (type : Bridge.DataType) (data : Bridge.Data) : HidesEmptiness (.described type data)
  | object (x : Object) : HidesEmptiness (.object x)
  | just {content : Datum} (h : HidesEmptiness content) : HidesEmptiness (.just content)

theorem HidesEmptiness.isEmpty?_eq_none {d : Datum} (h : d.HidesEmptiness) : d.isEmpty? = none := by
  induction h with
  | just _ ih => exact ih
  | _ => rfl

theorem HidesEmptiness.isNull_eq_false {d : Datum} (h : d.HidesEmptiness) : d.isNull = false := by
  cases h <;> rfl

end Datum

/-- The native form of a datum is shaped as the datum says, if those of objects are trees. -/
theorem MemberType.shapedAs_of_toNative {t : MemberType} {objects : String → Codec} {o : Options}
    {d : Datum} {v : Value}
    (hobjects : ∀ n d v, (objects n).toNative o d = .ok v →
      ∃ x tree, d = .object x ∧ v = .config tree)
    (h : (t.codecWith objects).toNative o d = .ok v) : d.ShapedAs v := by
  induction t generalizing d v with
  | bool => match d, h with | .bool b, rfl => exact .bool b
  | integer type => match d, h with | .integer n, rfl => exact .integer n
  | single => match d, h with | .single x, rfl => exact .single x
  | double => match d, h with | .double x, rfl => exact .double x
  | char => match d, h with | .char c, rfl => exact .char c
  | string => match d, h with | .string s, rfl => exact .string s
  | dateTime => match d, h with | .dateTime t, rfl => exact .dateTime t
  | bigInt => match d, h with | .bigInt n, rfl => exact .bigInt n
  | value => match d, h with | .value v, rfl => exact .value v
  | tree => match d, h with | .tree t, rfl => exact .tree t
  | described type => match d, h with | .described type' data, _ => exact .described type' data v
  | option content ih =>
    rcases Codec.toNative_option_eq_ok.mp h with ⟨rfl, rfl⟩ | ⟨inner, rfl, hinner⟩
    · exact .nothing
    · exact .just (ih hinner)
  | list item ih =>
    obtain ⟨ds, vs, rfl, rfl, hitems⟩ := Codec.toNative_list_eq_ok.mp h
    exact .list hitems.length_eq
  | map kind element ih =>
    obtain ⟨held, ds, vs, rfl, rfl, helements⟩ := Codec.toNative_map_eq_ok.mp h
    exact .map helements.length_eq
  | object n =>
    obtain ⟨x, tree, rfl, rfl⟩ := hobjects n d v h
    exact .object x tree

theorem TypeTable.shapedAs_of_toNative {ts : TypeTable} {t : MemberType} {o : Options} {d : Datum}
    {v : Value} (h : (ts.codec t).toNative o d = .ok v) : d.ShapedAs v := by
  refine MemberType.shapedAs_of_toNative (fun n d v h => ?_) h
  obtain ⟨x, tree, hd, hv, -⟩ := objectCodec_eq_ok.mp h
  exact ⟨x, tree, hd, hv⟩

/-! ## How data answer -/

namespace Datum.ShapedAs

variable {d : Datum} {v : Value}

/-- A datum is null if it becomes the null marker, and not because of something inside. -/
theorem isNull_eq_true (h : d.ShapedAs v) : d.isNull = true ↔ v = .null ∧ ¬ d.Wraps := by
  rw [← Value.isNull_eq_true]
  cases h with
  | nothing | value => exact ⟨fun hnull => ⟨hnull, nofun⟩, And.left⟩
  | just => exact ⟨nofun, fun ⟨_, hwraps⟩ => absurd (.just _) hwraps⟩
  | described type data => exact ⟨nofun, fun ⟨_, hwraps⟩ => absurd (.described type data) hwraps⟩
  | integer n => exact ⟨nofun, fun ⟨hnull, _⟩ => (Value.isNull_ofInt n).symm.trans hnull⟩
  | _ => exact ⟨nofun, And.left⟩

/-- A datum that can answer is empty if it becomes something empty. -/
theorem isEmpty?_eq_true_of_knows (h : d.ShapedAs v) (hknows : ¬ d.HidesEmptiness) :
    d.isEmpty? = some true ↔ v.isEmpty? = some true := by
  induction h with
  | just _ ih => exact ih fun hcontent => hknows (.just hcontent)
  | described type data => exact absurd (.described type data) hknows
  | object x => exact absurd (.object x) hknows
  | integer n =>
    rw [Value.isEmpty?_ofInt]
    exact Iff.rfl
  | char c => simp [isEmpty?, Value.isEmpty?]
  | list hlength => simp [isEmpty?, Value.isEmpty?, ← List.length_eq_zero_iff, hlength]
  | map hlength => simp [isEmpty?, Value.isEmpty?, ← List.length_eq_zero_iff, hlength]
  | _ => exact Iff.rfl

/-- A datum says that it is empty if it becomes something empty, and can answer. -/
theorem isEmpty?_eq_true (h : d.ShapedAs v) :
    d.isEmpty? = some true ↔ v.IsEmpty ∧ ¬ d.HidesEmptiness := by
  rw [← Value.isEmpty?_eq_true]
  constructor
  · intro hempty
    have hknows : ¬ d.HidesEmptiness := by
      intro hhides
      cases hhides.isEmpty?_eq_none.symm.trans hempty
    exact ⟨(h.isEmpty?_eq_true_of_knows hknows).mp hempty, hknows⟩
  · rintro ⟨hempty, hknows⟩
    exact (h.isEmpty?_eq_true_of_knows hknows).mpr hempty

/-- What becomes something empty is not null. -/
theorem isNull_eq_false (h : d.ShapedAs v) (hv : v.IsEmpty) : d.isNull = false := by
  rw [Bool.eq_false_iff]
  intro hnull
  obtain ⟨rfl, -⟩ := h.isNull_eq_true.mp hnull
  cases hv

end Datum.ShapedAs

end ConfigBinding
