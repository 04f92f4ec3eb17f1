import ConfigBinding.Bridge.DataType
import ConfigBinding.Proofs.Sequence
import Mathlib.Algebra.Group.Int.Defs

/-!
# How big integers are read

A big integer arrives as the first of a few kinds that has it: as an unsigned integer of 64 bits, as
one of 128 bits, or as a text (`ofBig_cases`). The signed integers of 64 bits are not among these
kinds. So a negative big integer arrives with 128 bits however small it is, and a type of fewer bits
refuses it although it has the number, and although it takes the same number from a 64-bit integer
(`readsBig`). Nothing else keeps an integer type from reading the big integers of its range.
-/

namespace ConfigBinding.Bridge

open Numeric

/-- The integer arrives with 128 bits when it is a big integer. -/
def ArrivesWide (n : Int) : Prop := -2 ^ 127 ≤ n ∧ n < 2 ^ 128 ∧ (n < 0 ∨ 2 ^ 64 ≤ n)

/-- The three ways in which a big integer arrives. -/
theorem ofBig_cases (n : Int) :
    ((0 ≤ n ∧ n < 2 ^ 64) ∧ Incoming.ofBig n = .integer .u64 n)
      ∨ (ArrivesWide n ∧ ∃ type : IntType, type.bits = 128 ∧ Incoming.ofBig n = .integer type n)
      ∨ (¬ (-2 ^ 127 ≤ n ∧ n < 2 ^ 128) ∧ Incoming.ofBig n = .str (toString n)) := by
  have hu64 : IntType.u64.contains n = true ↔ 0 ≤ n ∧ n ≤ 2 ^ 64 - 1 := IntType.contains_iff
  have hi128 : IntType.i128.contains n = true ↔ -2 ^ 127 ≤ n ∧ n ≤ 2 ^ 127 - 1 :=
    IntType.contains_iff
  have hu128 : IntType.u128.contains n = true ↔ 0 ≤ n ∧ n ≤ 2 ^ 128 - 1 := IntType.contains_iff
  simp only [Incoming.ofBig, ArrivesWide, hu64, hi128, hu128]
  split
  · exact .inl ⟨by omega, rfl⟩
  split
  · exact .inr (.inl ⟨by omega, .i128, rfl, rfl⟩)
  split
  · exact .inr (.inl ⟨by omega, .u128, rfl, rfl⟩)
  · exact .inr (.inr ⟨by omega, rfl⟩)

/-- No type has integers beyond 128 bits. -/
theorem bounds_of_contains {type : IntType} {n : Int} (h : type.contains n = true) :
    -2 ^ 127 ≤ n ∧ n < 2 ^ 128 := by
  rw [IntType.contains_iff, IntType.least, IntType.greatest] at h
  cases type <;> simp only [IntType.isSigned, IntType.bits] at h <;> omega

/-- The types of fewer than 128 bits have at most 64. -/
theorem narrow_of_contains {type : IntType} {n : Int} (h : type.contains n = true)
    (hbits : type.bits < 128) : -2 ^ 63 ≤ n ∧ n < 2 ^ 64 := by
  rw [IntType.contains_iff, IntType.least, IntType.greatest] at h
  cases type <;> simp only [IntType.isSigned, IntType.bits] at h hbits <;> omega

/-- An integer is read from one of any type if it is in range, and does not come with 128 bits to a
type that has fewer. -/
theorem readInteger_eq_ok {type source : IntType} {n : Int} {d : Data} :
    readInteger type (.integer source n) = .ok d
      ↔ d = .integer n ∧ type.contains n = true ∧ (source.bits = 128 → type.bits = 128) := by
  have hle : type.bits ≤ 128 := type.bits_le
  rw [readInteger]
  split
  · simp only [refuse, reduceCtorEq, false_iff]
    omega
  split
  · rename_i hwidth hrange
    simp only [Except.ok.injEq, hrange, true_and, eq_comm (a := d), iff_self_and]
    omega
  · rename_i hrange
    split <;> simp [refuse, hrange]

/-- What is no integer to be read is refused. -/
theorem readInteger_cases (type : IntType) (found : Incoming) :
    (∃ n, readInteger type found = .ok (.integer n)) ∨ ∃ r, readInteger type found = refuse r := by
  unfold readInteger
  split
  · split
    · exact .inr ⟨_, rfl⟩
    split
    · exact .inl ⟨_, rfl⟩
    split
    · exact .inr ⟨_, rfl⟩
    · exact .inr ⟨_, rfl⟩
  · exact .inr ⟨_, rfl⟩

theorem decode_bigInt {type : IntType} {n : Int} {d : Data} :
    (DataType.integer type).decode (.bigInt n) = .ok d
      ↔ d = .integer n ∧ type.contains n = true ∧ (n < 0 → type.bits = 128) := by
  have hle : type.bits ≤ 128 := type.bits_le
  rw [DataType.decode, Incoming.of]
  rcases ofBig_cases n with ⟨hnarrow, hof⟩ | ⟨hwide, source, hbits, hof⟩ | ⟨hbeyond, hof⟩
  · have hnot : ¬ n < 0 := by omega
    rw [hof, readInteger_eq_ok]
    simp [IntType.bits, hnot]
  · rw [hof, readInteger_eq_ok, hbits]
    refine and_congr_right fun _ => and_congr_right fun hrange => ?_
    refine ⟨fun h _ => h rfl, fun h _ => ?_⟩
    -- a type that has an integer of 64 bits or more has 128 bits
    by_contra hne
    have hnarrow := narrow_of_contains hrange (by omega)
    rcases hwide.2.2 with hneg | hlarge
    · exact hne (h hneg)
    · omega
  · have hrange : ¬ type.contains n = true := fun h => hbeyond (bounds_of_contains h)
    simp [hof, readInteger, refuse, hrange]

/-- How an integer type is read from a big integer. -/
structure ReadsBig (type : IntType) (n : Int) : Prop where
  /-- The number has to be in range, and not negative unless the type has 128 bits. -/
  reads : ∀ d, (DataType.integer type).decode (.bigInt n) = .ok d
    ↔ d = .integer n ∧ (type.least ≤ n ∧ n ≤ type.greatest) ∧ (n < 0 → type.bits = 128)
  /-- Everything else is refused. -/
  refuses : ¬ ((type.least ≤ n ∧ n ≤ type.greatest) ∧ (n < 0 → type.bits = 128)) →
    ∃ r, (DataType.integer type).decode (.bigInt n) = refuse r
  /-- The same number is read from a 64-bit integer whenever it is in range. -/
  narrow : ∀ i : Int64, i.toInt = n → ∀ d,
    (DataType.integer type).decode (.number (.integer i)) = .ok d
      ↔ d = .integer n ∧ type.least ≤ n ∧ n ≤ type.greatest

/-- An integer type is read from the big integers of its range, but from the negative ones only if
it has 128 bits. -/
theorem readsBig (type : IntType) (n : Int) : ReadsBig type n where
  reads d := by rw [decode_bigInt, IntType.contains_iff]
  refuses hnot := by
    rcases readInteger_cases type (Incoming.ofBig n) with ⟨m, hread⟩ | hrefused
    · obtain ⟨-, hrange, hsign⟩ := decode_bigInt.mp hread
      exact absurd ⟨IntType.contains_iff.mp hrange, hsign⟩ hnot
    · exact hrefused
  narrow i hi d := by
    rw [DataType.decode, Incoming.of, hi, readInteger_eq_ok, IntType.contains_iff]
    simp [IntType.bits]

namespace Example

/-- A negative number that every signed type has is refused by one of 64 bits, and read from a
64-bit integer. -/
theorem bigInt_negative_refused :
    (IntType.i64.least ≤ -5 ∧ -5 ≤ IntType.i64.greatest)
      ∧ (DataType.integer .i64).decode (.bigInt (-5))
        = refuse (.wrongType (.integer .i128 (-5)) "i64")
      ∧ (DataType.integer .i64).decode (.number (.integer (-5))) = .ok (.integer (-5)) :=
  ⟨by decide, rfl, rfl⟩

end Example

end ConfigBinding.Bridge
