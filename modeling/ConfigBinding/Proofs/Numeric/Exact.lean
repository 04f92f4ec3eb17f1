import ConfigBinding.Numeric.Binary
import Mathlib.Data.Rat.Cast.Lemmas
import Mathlib.Tactic.FieldSimp
import Mathlib.Tactic.NormNum
import Mathlib.Tactic.Positivity
import Mathlib.Algebra.Order.Field.Power

/-!
# The exact value of a number

A finite number is a rational one, `Binary.toRat?`. The test whether it is an integer, which works
on the significand and the exponent, asks exactly this: `Binary.toInt?_eq_some_iff`.
-/

namespace ConfigBinding.Numeric.Binary

variable {f : Format}

/-- The sign of a number as a factor. -/
def signFactor (x : Binary f) : Int := if x.isNegative then -1 else 1

/-- The rational number that a number is; infinities and the NaN are none. -/
def toRat? (x : Binary f) : Option ℚ :=
  match x.magnitude with
  | .finite significand exponent => some (x.signFactor * (significand * 2 ^ exponent))
  | _ => none

/-- A significand that its exponent leaves whole is one that the places behind the point divide. -/
theorem scaled_eq_iff {significand : Nat} {exponent : Int} (n : Nat) :
    (significand * 2 ^ exponent : ℚ) = n
      ↔ significand % 2 ^ (-exponent).toNat = 0
        ∧ significand / 2 ^ (-exponent).toNat * 2 ^ exponent.toNat = n := by
  rcases Int.le_total 0 exponent with hexponent | hexponent
  · obtain ⟨places, rfl⟩ := Int.eq_ofNat_of_zero_le hexponent
    have hback : (-(places : Int)).toNat = 0 := by omega
    rw [hback, Int.toNat_natCast, Nat.pow_zero, Nat.mod_one, Nat.div_one, zpow_natCast]
    norm_cast
    simp
  · obtain ⟨places, hplaces⟩ := Int.eq_ofNat_of_zero_le (Int.neg_nonneg.mpr hexponent)
    obtain rfl : exponent = -places := by omega
    have hback : (-(-(places : Int))).toNat = places := by omega
    have hforth : (-(places : Int)).toNat = 0 := by omega
    have hpos : 0 < 2 ^ places := Nat.two_pow_pos places
    rw [hback, hforth, Nat.pow_zero, Nat.mul_one, zpow_neg, zpow_natCast, ← div_eq_mul_inv,
      div_eq_iff (by positivity)]
    norm_cast
    constructor
    · rintro rfl
      exact ⟨Nat.mul_mod_left _ _, Nat.mul_div_cancel _ hpos⟩
    · rintro ⟨hdivides, rfl⟩
      exact (Nat.div_mul_cancel (Nat.dvd_of_mod_eq_zero hdivides)).symm

/-- A number is taken for an integer exactly when it is that integer. -/
theorem toInt?_eq_some_iff {x : Binary f} {n : Int} :
    x.toInt? = some n ↔ x.toRat? = some (n : ℚ) := by
  rw [toInt?, toRat?, signFactor]
  cases x.magnitude with
  | nan | infinite => simp
  | finite significand exponent =>
    have hmagnitude : (0 : ℚ) ≤ significand * 2 ^ exponent := by positivity
    have hwhole := @scaled_eq_iff significand exponent
    simp only [Option.some.injEq, Option.ite_none_right_eq_some]
    generalize (significand * 2 ^ exponent : ℚ) = magnitude at hmagnitude hwhole ⊢
    generalize significand / 2 ^ (-exponent).toNat * 2 ^ exponent.toNat = whole at hwhole ⊢
    constructor
    · rintro ⟨hdivides, rfl⟩
      rw [(hwhole whole).mpr ⟨hdivides, rfl⟩]
      cases x.isNegative <;> simp
    · intro hsign
      -- without its sign the number is the integer without its sign
      have habs : magnitude = (n.natAbs : ℚ) := by
        rw [Nat.cast_natAbs, Int.cast_abs, ← hsign]
        cases x.isNegative <;> simp [abs_of_nonneg hmagnitude]
      obtain ⟨hdivides, rfl⟩ := (hwhole _).mp habs
      refine ⟨hdivides, ?_⟩
      rw [habs] at hsign
      cases hnegative : x.isNegative with
      | false =>
        have : ((n.natAbs : Int) : ℚ) = n := by simpa [hnegative] using hsign
        have := Int.cast_injective this
        simpa using this
      | true =>
        have : ((-(n.natAbs : Int) : Int) : ℚ) = n := by simpa [hnegative] using hsign
        have := Int.cast_injective this
        simpa using this

end ConfigBinding.Numeric.Binary
