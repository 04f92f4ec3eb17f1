import ConfigBinding.Proofs.Codec.Failures
import ConfigBinding.Proofs.Codec.RoundTrip

/-!
# Which values are integers

A number may be written as a 64-bit integer, as a float, or as a big integer. Where an integer type
is wanted, the spelling should not matter, only the exact value: `Value.toRat?` is what a value is
as a rational number, and `Datum.IsInteger` says which integers a type has.

For the types within the signed integers of 64 bits this is the whole story
(`TypeTable.readsExactly`). A float counts by its bits, so nothing is rounded into an integer: the
NaN, the infinities and fractions are refused, the negative zero is zero, and `2 ^ 63` lies outside
every one of these types although the greatest 64-bit integer would be rounded to it.

The types that go beyond, `u64`, `usize` and `BigInt`, have their numbers converted into big
integers, and there a float still goes by way of a 64-bit integer. So a whole float of `2 ^ 63` or
more is refused where the same number is read from a big integer (`TypeTable.readsWide`).
-/

namespace ConfigBinding

open Numeric

/-! ## Exact values -/

namespace Numeric.IntType

/-- The integers of 64 bits with a sign, each by itself. -/
theorem exists_int64_iff {n : Int} : IntType.i64.contains n = true ↔ ∃ i : Int64, i.toInt = n := by
  rw [contains_iff]
  constructor
  · rintro ⟨hleast, hgreatest⟩
    have hhigh : n < 2 ^ 63 := Int.lt_of_le_sub_one hgreatest
    exact ⟨Int64.ofInt n, Int64.toInt_ofInt_of_le hleast hhigh⟩
  · rintro ⟨i, rfl⟩
    exact ⟨i.le_toInt, Int.le_sub_one_of_lt i.toInt_lt⟩

end Numeric.IntType

/-- The datum is an integer, as a datum of an integer type. A type of fixed width has the integers
of its range, and the type of big integers has them all. -/
inductive Datum.IsInteger : MemberType → Int → Datum → Prop where
  | fixed {type : IntType} {n : Int} (hleast : type.least ≤ n) (hgreatest : n ≤ type.greatest) :
    IsInteger (.integer type) n (.integer n)
  | big (n : Int) : IsInteger .bigInt n (.bigInt n)

theorem Datum.isInteger_fixed {type : IntType} {n : Int} {d : Datum} :
    d.IsInteger (.integer type) n ↔ type.contains n = true ∧ d = .integer n := by
  rw [IntType.contains_iff]
  constructor
  · rintro ⟨hleast, hgreatest⟩
    exact ⟨⟨hleast, hgreatest⟩, rfl⟩
  · rintro ⟨⟨hleast, hgreatest⟩, rfl⟩
    exact .fixed hleast hgreatest

theorem Datum.isInteger_big {n : Int} {d : Datum} : d.IsInteger .bigInt n ↔ d = .bigInt n := by
  constructor
  · rintro ⟨⟩
    rfl
  · rintro rfl
    exact .big n

namespace Value

/-- Asking a value for a 64-bit integer gives the one that it is. -/
theorem toInt64_eq_ok {v : Value} {i : Int64} :
    v.toInt64 = .ok i ↔ v.toRat? = some (i.toInt : ℚ) := by
  cases v with
  | number n =>
    rw [← Number.toInt64?_eq_some_iff, toInt64]
    cases n.toInt64? <;> simp
  | bigInt n =>
    have hrange := And.intro i.le_toInt i.toInt_lt
    rw [toInt64, toRat?, Option.some.injEq, Int.cast_inj]
    constructor
    · intro h
      split at h
      · rename_i hn
        obtain rfl := Except.ok.inj h
        exact (Int64.toInt_ofInt_of_le hn.1 hn.2).symm
      · cases h
    · rintro rfl
      rw [if_pos hrange, Int64.ofInt_toInt]
  | _ => simp [toInt64, toRat?]

/-- Where integers of any size are wanted, a value is taken for the integer that it is, but a float
only for a 64-bit one. -/
theorem toWhole?_eq_some_iff {v : Value} {n : Int} :
    v.toWhole? = some n ↔ v.toRat? = some (n : ℚ)
      ∧ ∀ x, v = .number (.float x) → -2 ^ 63 ≤ n ∧ n < 2 ^ 63 := by
  have hnumber : ∀ m : Number, (Value.number m).toWhole? = some n
      ↔ (Value.number m).toRat? = some (n : ℚ) ∧ -2 ^ 63 ≤ n ∧ n < 2 ^ 63 := by
    intro m
    rw [toWhole?, Option.map_eq_some_iff]
    simp only [Number.toInt64?_eq_some_iff]
    constructor
    · rintro ⟨i, hi, rfl⟩
      exact ⟨hi, i.le_toInt, i.toInt_lt⟩
    · rintro ⟨hn, hlow, hhigh⟩
      have hself := Int64.toInt_ofInt_of_le hlow hhigh
      exact ⟨Int64.ofInt n, hself.symm ▸ hn, hself⟩
  cases v with
  | number m =>
    rw [hnumber]
    cases m with
    | float x => simp
    | integer i =>
      -- an integer by kind has 64 bits anyway
      have hrange := And.intro i.le_toInt i.toInt_lt
      simp only [toRat?, Option.some.injEq, Int.cast_inj, number.injEq, reduceCtorEq,
        false_implies, implies_true, and_true, and_iff_left_iff_imp]
      rintro rfl
      exact hrange
  | bigInt m => simp [toWhole?, toRat?]
  | _ => simp [toWhole?, toRat?]

end Value

/-! ## Types within 64 bits -/

namespace TypeTable

variable {ts : TypeTable} {o : Options} {t : MemberType} {v : Value}

/-- How a value on its own is read as an integer type within the signed integers of 64 bits. -/
structure ReadsExactly (ts : TypeTable) (type : IntType) (o : Options) (v : Value) : Prop where
  /-- It is read as an integer exactly if it is a number of that value, and the type has it. -/
  reads : ∀ d, (ts.codec (.integer type)).readValue o v = .ok d
    ↔ ∃ n : Int, v.toRat? = some (n : ℚ) ∧ d.IsInteger (.integer type) n
  /-- Every other value is refused. -/
  refuses : (¬ ∃ (n : Int) (d : Datum), v.toRat? = some (n : ℚ) ∧ d.IsInteger (.integer type) n) →
    ∃ fault, (ts.codec (.integer type)).readValue o v = .error (.ofFault fault)
  /-- Among the types, that of 64 bits has the value's own answer when it is asked for a 64-bit
  integer. -/
  asInt64 : type = .i64 →
    (∀ d, (ts.codec (.integer type)).readValue o v = .ok d
        ↔ ∃ i : Int64, v.toInt64 = .ok i ∧ d = .integer i.toInt)
      ∧ ((∃ fault, (ts.codec (.integer type)).readValue o v = .error (.ofFault fault))
        ↔ ∃ fault, v.toInt64 = .error (.ofFault fault))

/-- The type of 64-bit integers is read as the value itself is asked for one. -/
theorem readValue_i64 (ho : o.registry.IsBuiltin) {d : Datum} :
    (ts.codec (.integer .i64)).readValue o v = .ok d
      ↔ ∃ i : Int64, v.toInt64 = .ok i ∧ d = .integer i.toInt := by
  refine (Codec.readValue_integer ho rfl).trans ?_
  simp only [Value.toInt64_eq_ok]
  constructor
  · rintro ⟨n, hn, hcontains, rfl⟩
    obtain ⟨i, rfl⟩ := IntType.exists_int64_iff.mp hcontains
    exact ⟨i, hn, rfl⟩
  · rintro ⟨i, hi, rfl⟩
    exact ⟨i.toInt, hi, IntType.exists_int64_iff.mpr ⟨i, rfl⟩, rfl⟩

/-- With the built-in converters, the integer types within the signed integers of 64 bits are read
from the numbers that are their integers, and from nothing else. -/
theorem readsExactly (ho : o.registry.IsBuiltin) {type : IntType}
    (htype : type ∈ [IntType.i8, .i16, .i32, .i64, .isize, .u8, .u16, .u32]) (v : Value) :
    ts.ReadsExactly type o v := by
  have hnarrow : type.isWide = false := by
    revert type
    decide
  have hreads : ∀ d, (ts.codec (.integer type)).readValue o v = .ok d
      ↔ ∃ n : Int, v.toRat? = some (n : ℚ) ∧ d.IsInteger (.integer type) n := by
    intro d
    simp only [Datum.isInteger_fixed]
    exact Codec.readValue_integer ho hnarrow
  have hfaults : ((ts.codec (.integer type)).readValue o v).FaultsOnly :=
    (Codec.faultsOnly_integer type).readValue ho v
  refine ⟨hreads, fun hnone => hfaults.exists_fault fun d hd => ?_, ?_⟩
  · obtain ⟨n, hn⟩ := (hreads d).mp hd
    exact hnone ⟨n, d, hn⟩
  · rintro rfl
    refine ⟨fun d => readValue_i64 ho, hfaults.fails_iff (Codec.faultsOnly_toInt64 v) ?_⟩
    simp only [readValue_i64 ho]
    constructor
    · rintro ⟨d, i, hi, -⟩
      exact ⟨i, hi⟩
    · rintro ⟨i, hi⟩
      exact ⟨_, i, hi, rfl⟩

end TypeTable

/-- The negative zero is zero. -/
example : (Binary.ofBits .double 0x8000000000000000).toRat? = some ((0 : Int) : ℚ) := by
  have hzero : (Binary.ofBits .double 0x8000000000000000).magnitude = .finite 0 (-1074) := by decide
  simp [Binary.toRat?, hzero]

namespace Example

/-- The float with the bits of `-2 ^ 63`. -/
def leastFloat : Binary64 := .ofBits .double 0xc3e0000000000000

/-- The float with the bits of `2 ^ 63`, which is what the greatest 64-bit integer is rounded to. -/
def beyondFloat : Binary64 := .ofBits .double 0x43e0000000000000

theorem toRat?_leastFloat : leastFloat.toRat? = some ((-2 ^ 63 : Int) : ℚ) :=
  Binary.toInt?_eq_some_iff.mp (by decide)

theorem toRat?_beyondFloat : beyondFloat.toRat? = some ((2 ^ 63 : Int) : ℚ) :=
  Binary.toInt?_eq_some_iff.mp (by decide)

/-- At the ends of 64 bits a float is read if it is in the range, and refused if it is the least
number above. -/
theorem readsExactly_ends :
    IntType.i64 ∈ [IntType.i8, .i16, .i32, .i64, .isize, .u8, .u16, .u32]
      ∧ (({} : TypeTable).codec (.integer .i64)).readValue {} (.number (.float leastFloat))
        = .ok (.integer (-2 ^ 63))
      ∧ ∃ fault, (({} : TypeTable).codec (.integer .i64)).readValue {} (.number (.float beyondFloat))
        = .error (.ofFault fault) := by
  have hi64 : IntType.i64 ∈ [IntType.i8, .i16, .i32, .i64, .isize, .u8, .u16, .u32] := by decide
  refine ⟨hi64, ?_, ?_⟩
  · refine ((TypeTable.readsExactly ⟨rfl, rfl⟩ hi64 _).reads _).mpr ⟨-2 ^ 63, ?_, ?_⟩
    · exact toRat?_leastFloat
    · exact .fixed (by decide) (by decide)
  · refine (TypeTable.readsExactly ⟨rfl, rfl⟩ hi64 _).refuses ?_
    rintro ⟨n, d, hn, hd⟩
    obtain rfl : (2 ^ 63 : Int) = n :=
      Int.cast_injective (Option.some.inj (toRat?_beyondFloat.symm.trans hn))
    obtain ⟨hcontains, -⟩ := Datum.isInteger_fixed.mp hd
    exact absurd hcontains (by decide)

end Example

/-! ## Types beyond 64 bits -/

namespace TypeTable

variable {ts : TypeTable} {o : Options} {t : MemberType} {v : Value}

/-- How a value on its own is read as an integer type beyond the signed integers of 64 bits. -/
structure ReadsWide (ts : TypeTable) (t : MemberType) (o : Options) (v : Value) : Prop where
  /-- It is read as an integer exactly if it is a number of that value and the type has it; but if
  the number is a float, it must also be a 64-bit integer. -/
  reads : ∀ d, (ts.codec t).readValue o v = .ok d
    ↔ ∃ n : Int, v.toRat? = some (n : ℚ)
      ∧ (∀ x, v = .number (.float x) → -2 ^ 63 ≤ n ∧ n < 2 ^ 63) ∧ d.IsInteger t n
  /-- Every other value is refused. -/
  refuses : (¬ ∃ (n : Int) (d : Datum), v.toRat? = some (n : ℚ)
      ∧ (∀ x, v = .number (.float x) → -2 ^ 63 ≤ n ∧ n < 2 ^ 63) ∧ d.IsInteger t n) →
    ∃ fault, (ts.codec t).readValue o v = .error (.ofFault fault)

/-- The types beyond 64 bits are read from what values are taken for where integers of any size are
wanted. -/
theorem readValue_wide_iff (ho : o.registry.IsBuiltin)
    (ht : t = .integer .u64 ∨ t = .integer .usize ∨ t = .bigInt) {d : Datum} :
    (ts.codec t).readValue o v = .ok d ↔ ∃ n, v.toWhole? = some n ∧ d.IsInteger t n := by
  have hfixed : ∀ type : IntType, type.isWide = true →
      ((ts.codec (.integer type)).readValue o v = .ok d
        ↔ ∃ n, v.toWhole? = some n ∧ d.IsInteger (.integer type) n) := by
    intro type hwide
    simp only [Datum.isInteger_fixed, ← Codec.contains_wideRange type]
    exact Codec.readValue_wide ho hwide
  rcases ht with rfl | rfl | rfl
  · exact hfixed .u64 rfl
  · exact hfixed .usize rfl
  · simp only [Datum.isInteger_big]
    exact Codec.readValue_bigInt ho

/-- With the built-in converters, the integer types beyond 64 bits are read from the numbers that
are their integers, floats of `2 ^ 63` and more and those below `-2 ^ 63` excepted, and from nothing
else. -/
theorem readsWide (ho : o.registry.IsBuiltin)
    (ht : t = .integer .u64 ∨ t = .integer .usize ∨ t = .bigInt) (v : Value) :
    ts.ReadsWide t o v := by
  have hreads : ∀ d, (ts.codec t).readValue o v = .ok d
      ↔ ∃ n : Int, v.toRat? = some (n : ℚ)
        ∧ (∀ x, v = .number (.float x) → -2 ^ 63 ≤ n ∧ n < 2 ^ 63) ∧ d.IsInteger t n := by
    intro d
    rw [readValue_wide_iff ho ht]
    simp only [Value.toWhole?_eq_some_iff, and_assoc]
  have hfaults : ((ts.codec t).readValue o v).FaultsOnly := by
    rcases ht with rfl | rfl | rfl
    · exact (Codec.faultsOnly_integer _).readValue ho v
    · exact (Codec.faultsOnly_integer _).readValue ho v
    · exact Codec.faultsOnly_bigInt.readValue ho v
  refine ⟨hreads, fun hnone => hfaults.exists_fault fun d hd => ?_⟩
  obtain ⟨n, hn⟩ := (hreads d).mp hd
  exact hnone ⟨n, d, hn⟩

end TypeTable

namespace Example

/-- Beyond 64 bits a number is read from a big integer. -/
theorem readsWide_bigInt :
    (({} : TypeTable).codec (.integer .u64)).readValue {} (.bigInt (2 ^ 63))
      = .ok (.integer (2 ^ 63)) := by
  refine ((TypeTable.readsWide ⟨rfl, rfl⟩ (.inl rfl) _).reads _).mpr ⟨2 ^ 63, rfl, nofun, ?_⟩
  exact .fixed (by decide) (by decide)

/-- The same number is refused as a float, though the types have it. -/
theorem readValue_beyondFloat_refused :
    (Value.number (.float beyondFloat)).toRat? = some ((2 ^ 63 : Int) : ℚ)
      ∧ (Datum.integer (2 ^ 63)).IsInteger (.integer .u64) (2 ^ 63)
      ∧ (Datum.bigInt (2 ^ 63)).IsInteger .bigInt (2 ^ 63)
      ∧ ∀ t, t = .integer .u64 ∨ t = .integer .usize ∨ t = .bigInt → ∀ d,
        (({} : TypeTable).codec t).readValue {} (.number (.float beyondFloat)) ≠ .ok d := by
  refine ⟨toRat?_beyondFloat, .fixed (by decide) (by decide), .big _, fun t ht d hd => ?_⟩
  obtain ⟨n, hn, -⟩ := (TypeTable.readValue_wide_iff ⟨rfl, rfl⟩ ht).mp hd
  have hnone : (Value.number (.float beyondFloat)).toWhole? = none := by decide
  cases hnone.symm.trans hn

end Example

end ConfigBinding
