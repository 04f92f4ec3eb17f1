import ConfigBinding.Proofs.Numeric.Exact
import ConfigBinding.Proofs.Numeric.Lossless
import Mathlib.Tactic.Linarith

/-!
# Where rounding leaves the finite numbers

Rounding to a format gives an infinity from a certain magnitude on, `Format.overflow`, which lies
half a place above the largest finite number (`Binary.isFinite_ofScaled`). A number that is rounded
twice, to double precision and then to single precision, may be carried over the limit by the first
rounding, so there the limit is lower by half a place of double precision
(`Binary.isFinite_convert_ofInt`).

Both limits come from one fact. Without their signs, bit patterns stand in the order of the numbers
(`Format.pattern_lt_iff`), and a number is rounded to below a pattern with an even significand
exactly if it lies below the midpoint before that pattern (`Binary.unsigned_ofScaled_lt`). Infinity
is such a pattern, and so is, in double precision, the limit of single precision.
-/

namespace ConfigBinding.Numeric

variable {f : Format}

/-! ## Patterns and their order -/

namespace Format

/-- The bit pattern, sign left aside, of a significand and an exponent as the format keeps them. -/
def pattern (f : Format) (significand : Nat) (exponent : Int) : Nat :=
  (exponent - f.minExponent).toNat * 2 ^ f.fractionBits + significand

/-- The place of the last bit that rounding a number to the format keeps. -/
def lastPlace (f : Format) (significand : Nat) (exponent : Int) : Int :=
  max f.minExponent (exponent + significand.log2 - f.fractionBits)

/-- What rounding to the places of a format leaves of a number before the significand is made whole:
a significand below two hidden bits, which has one unless the exponent is the least one. -/
structure Placed (f : Format) (significand : ℚ) (exponent : Int) : Prop where
  nonneg : 0 ≤ significand
  lt : significand < 2 * 2 ^ f.fractionBits
  le_exponent : f.minExponent ≤ exponent
  normal : exponent = f.minExponent ∨ 2 ^ f.fractionBits ≤ significand

variable {s t : Nat} {e p : Int}

/-- Patterns stand in the order of their exponents first, and then of their significands. -/
theorem pattern_lt_iff (hs : s ≤ 2 * 2 ^ f.fractionBits) (he : f.minExponent ≤ e)
    (hnormal : e = f.minExponent ∨ 2 ^ f.fractionBits ≤ s) (hp : f.minExponent ≤ p)
    (hlow : 2 ^ f.fractionBits < t) (hhigh : t ≤ 2 * 2 ^ f.fractionBits) :
    f.pattern s e < f.pattern t p ↔ e < p ∨ e = p ∧ s < t := by
  obtain ⟨i, rfl⟩ := Int.le.dest he
  obtain ⟨j, rfl⟩ := Int.le.dest hp
  have hplaces : ∀ k : Nat, (f.minExponent + k - f.minExponent).toNat = k := by omega
  rw [pattern, pattern, hplaces, hplaces]
  generalize 2 ^ f.fractionBits = hidden at *
  rcases Nat.lt_trichotomy i j with hlt | rfl | hgt
  · -- one exponent more outweighs any significand
    have hstep : (i + 1) * hidden ≤ j * hidden := Nat.mul_le_mul_right _ hlt
    rw [Nat.succ_mul] at hstep
    exact iff_of_true (by omega) (.inl (by omega))
  · omega
  · have hstep : (j + 1) * hidden ≤ i * hidden := Nat.mul_le_mul_right _ hgt
    rw [Nat.succ_mul] at hstep
    have hhidden : hidden ≤ s := hnormal.resolve_left (by omega)
    exact iff_of_false (by omega) (by omega)

/-- Numbers stand in the same order. -/
theorem Placed.scaled_lt_iff {q c : ℚ} (h : f.Placed q e) (hp : f.minExponent ≤ p)
    (hlow : 2 ^ f.fractionBits ≤ c) (hhigh : c ≤ 2 * 2 ^ f.fractionBits) :
    q * 2 ^ e < c * 2 ^ p ↔ e < p ∨ e = p ∧ q < c := by
  have hpos : ∀ n : Int, (0 : ℚ) < 2 ^ n := fun n => by positivity
  have hdouble : ∀ m n : Int, m < n → (2 : ℚ) * 2 ^ m ≤ 2 ^ n := by
    intro m n hmn
    rw [← zpow_one_add₀ (by norm_num)]
    exact zpow_le_zpow_right₀ (by norm_num) (by omega)
  rcases lt_trichotomy e p with hlt | rfl | hgt
  · refine iff_of_true ?_ (.inl hlt)
    calc q * 2 ^ e < 2 * 2 ^ f.fractionBits * 2 ^ e := mul_lt_mul_of_pos_right h.lt (hpos e)
      _ = 2 ^ f.fractionBits * (2 * 2 ^ e) := by ring
      _ ≤ 2 ^ f.fractionBits * 2 ^ p := mul_le_mul_of_nonneg_left (hdouble e p hlt) (by positivity)
      _ ≤ c * 2 ^ p := mul_le_mul_of_nonneg_right hlow (hpos p).le
  · rw [mul_lt_mul_iff_left₀ (hpos e)]
    simp
  · have hhidden : 2 ^ f.fractionBits ≤ q := h.normal.resolve_left (by omega)
    refine iff_of_false (not_lt.mpr ?_) (by omega)
    calc c * 2 ^ p ≤ 2 * 2 ^ f.fractionBits * 2 ^ p := mul_le_mul_of_nonneg_right hhigh (hpos p).le
      _ = 2 ^ f.fractionBits * (2 * 2 ^ p) := by ring
      _ ≤ 2 ^ f.fractionBits * 2 ^ e := mul_le_mul_of_nonneg_left (hdouble p e hgt) (by positivity)
      _ ≤ q * 2 ^ e := mul_le_mul_of_nonneg_right hhidden (hpos e).le

/-- What the format keeps needs no rounding. -/
theorem Holds.placed (h : f.Holds s e) : f.Placed s e where
  nonneg := by positivity
  lt := by exact_mod_cast h.significand_lt
  le_exponent := h.le_exponent
  normal := h.normal.imp_right fun hhidden => by exact_mod_cast hhidden

end Format

namespace Binary

/-! ## Rounding to below a pattern -/

/-- A quotient is rounded to below an even number exactly if it lies below the midpoint before it,
because the midpoint itself goes to the even number. -/
theorem roundDiv_lt_iff_mul {num den t : Nat} (hden : 0 < den) (heven : t % 2 = 0) (ht : 0 < t) :
    roundDiv num den < t ↔ 2 * num < (2 * t - 1) * den := by
  have hdivision : den * (num / den) + num % den = num := Nat.div_add_mod num den
  have hrest : num % den < den := Nat.mod_lt _ hden
  have hmidpoint : (2 * t - 1) * den + den = 2 * (den * t) := by
    rw [← Nat.succ_mul, Nat.succ_eq_add_one, Nat.sub_add_cancel (by omega), Nat.mul_assoc,
      Nat.mul_comm t]
  simp only [roundDiv]
  generalize (2 * t - 1) * den = midpoint at *
  generalize num / den = quotient at *
  generalize num % den = rest at *
  rcases Nat.lt_trichotomy (quotient + 1) t with hbelow | rfl | habove
  · -- a whole quotient less than `t` by two stays below it, whichever way it goes
    have hstep : den * (quotient + 2) ≤ den * t := Nat.mul_le_mul_left _ hbelow
    rw [Nat.mul_add] at hstep
    refine iff_of_true ?_ (by omega)
    split
    · omega
    split
    · omega
    split <;> omega
  · -- next to `t` the remainder decides, and the whole quotient is odd
    rw [Nat.mul_succ] at hmidpoint
    split
    · exact iff_of_true (by omega) (by omega)
    split
    · exact iff_of_false (by omega) (by omega)
    · rw [if_neg (by omega)]
      exact iff_of_false (by omega) (by omega)
  · have hstep : den * t ≤ den * quotient := Nat.mul_le_mul_left _ (by omega)
    refine iff_of_false ?_ (by omega)
    split
    · omega
    split
    · omega
    split <;> omega

theorem roundDiv_lt_iff {num den t : Nat} (hden : 0 < den) (heven : t % 2 = 0) (ht : 0 < t) :
    roundDiv num den < t ↔ (num / den : ℚ) < t - 1 / 2 := by
  have hden' : (0 : ℚ) < den := by exact_mod_cast hden
  have hdouble : ((2 * t - 1 : Nat) : ℚ) = 2 * t - 1 := by
    rw [Nat.cast_sub (by omega)]
    norm_num
  have hcast : 2 * num < (2 * t - 1) * den ↔ (2 * num : ℚ) < (2 * t - 1) * den := by
    rw [← hdouble]
    exact_mod_cast Iff.rfl
  rw [roundDiv_lt_iff_mul hden heven ht, hcast, div_lt_iff₀ hden']
  constructor <;> intro h <;> linarith

/-- A rounded quotient does not leave the whole numbers that the quotient lies between. -/
theorem roundDiv_le {num den n : Nat} (hden : 0 < den) (h : (num / den : ℚ) < n) :
    roundDiv num den ≤ n := by
  have hlt : num < n * den := by
    rw [div_lt_iff₀ (by exact_mod_cast hden)] at h
    exact_mod_cast h
  have hquotient : num / den < n := Nat.div_lt_of_lt_mul (Nat.mul_comm n den ▸ hlt)
  simp only [roundDiv]
  split
  · omega
  split
  · omega
  split <;> omega

theorem le_roundDiv {num den n : Nat} (hden : 0 < den) (h : n ≤ (num / den : ℚ)) :
    n ≤ roundDiv num den := by
  have hle : n * den ≤ num := by
    rw [le_div_iff₀ (by exact_mod_cast hden)] at h
    exact_mod_cast h
  have hquotient : n ≤ num / den := (Nat.le_div_iff_mul_le hden).mpr hle
  simp only [roundDiv]
  split
  · omega
  split
  · omega
  split <;> omega

/-- The bit pattern without its sign. -/
def unsigned (x : Binary f) : Nat := x.bits % f.signBit

theorem unsigned_of_bits {x : Binary f} {negative : Bool} {bits : Nat}
    (h : x.bits = signPart f negative + bits) (hbits : bits ≤ f.infinityBits) :
    x.unsigned = bits ∧ x.isNegative = negative := by
  have hlt := infinityBits_lt_signBit f
  rw [unsigned, isNegative, h, signPart]
  cases negative
  · simp [Nat.mod_eq_of_lt (lt_of_le_of_lt hbits hlt), lt_of_le_of_lt hbits hlt]
  · simp [Nat.mod_eq_of_lt (lt_of_le_of_lt hbits hlt)]

/-- The number is finite exactly if its pattern comes before that of infinity. -/
theorem isFinite_iff {x : Binary f} : x.isFinite = true ↔ x.unsigned < f.infinityBits := by
  have hexponent := x.exponentField_lt
  have hfraction := x.fractionField_lt
  have hunsigned : x.unsigned = x.exponentField * 2 ^ f.fractionBits + x.fractionField := by
    have hlt : x.exponentField * 2 ^ f.fractionBits + x.fractionField < f.signBit := by
      rw [signBit_eq]
      calc x.exponentField * 2 ^ f.fractionBits + x.fractionField
          < (x.exponentField + 1) * 2 ^ f.fractionBits := by rw [Nat.succ_mul]; omega
        _ ≤ 2 ^ f.exponentBits * 2 ^ f.fractionBits := Nat.mul_le_mul_right _ hexponent
    rw [unsigned, bits_eq, signPart]
    split
    · rw [Nat.add_mod_left, Nat.mod_eq_of_lt hlt]
    · rw [Nat.zero_add, Nat.mod_eq_of_lt hlt]
  rw [isFinite, magnitude, hunsigned, Format.infinityBits]
  by_cases hspecial : x.exponentField = f.specialField
  · refine iff_of_false ?_ (by rw [hspecial]; omega)
    rw [if_pos hspecial]
    by_cases hzero : x.fractionField = 0 <;> simp [hzero]
  · have hstep : (x.exponentField + 1) * 2 ^ f.fractionBits ≤ f.specialField * 2 ^ f.fractionBits :=
      Nat.mul_le_mul_right _ (by rw [Format.specialField] at *; omega)
    rw [Nat.succ_mul] at hstep
    refine iff_of_true ?_ (by omega)
    rw [if_neg hspecial]
    by_cases hzero : x.exponentField = 0 <;> simp [hzero]

theorem magnitude_of_isFinite {x : Binary f} (h : x.isFinite = true) :
    ∃ significand exponent, x.magnitude = .finite significand exponent := by
  rw [isFinite] at h
  split at h
  · rename_i significand exponent hmagnitude
    exact ⟨significand, exponent, hmagnitude⟩
  · cases h

/-- What a finite number decodes into is its pattern. -/
theorem unsigned_of_magnitude {x : Binary f} {significand : Nat} {exponent : Int}
    (h : x.magnitude = .finite significand exponent) :
    x.unsigned = f.pattern significand exponent := by
  have hholds := holds_magnitude h
  have hbits := bits_encode hholds x.isNegative
  rw [encode_magnitude h] at hbits
  exact (unsigned_of_bits hbits hholds.below_infinity.le).1

/-- Counted in the last place that is kept, a number is placed as the format asks for. -/
theorem placed_lastPlace {significand : Nat} (hzero : significand ≠ 0) (exponent : Int) :
    f.Placed (significand * 2 ^ (exponent - f.lastPlace significand exponent))
      (f.lastPlace significand exponent) := by
  have hlow : (2 : ℚ) ^ significand.log2 ≤ significand := by
    exact_mod_cast Nat.log2_self_le hzero
  have hhigh : (significand : ℚ) < 2 ^ (significand.log2 + 1) := by
    exact_mod_cast Nat.lt_log2_self
  rw [Format.lastPlace]
  generalize hplace : max f.minExponent (exponent + significand.log2 - f.fractionBits) = place
  have hpos : (0 : ℚ) < 2 ^ (exponent - place) := by positivity
  refine ⟨by positivity, ?_, by omega, ?_⟩
  · calc (significand : ℚ) * 2 ^ (exponent - place)
        < 2 ^ (significand.log2 + 1) * 2 ^ (exponent - place) := mul_lt_mul_of_pos_right hhigh hpos
      _ = 2 ^ ((significand.log2 + 1 : Nat) + (exponent - place)) := by
          rw [zpow_add₀ (by norm_num), zpow_natCast]
      _ ≤ 2 ^ ((f.fractionBits + 1 : Nat) : Int) := zpow_le_zpow_right₀ (by norm_num) (by omega)
      _ = 2 * 2 ^ f.fractionBits := by rw [zpow_natCast, pow_succ']
  · rcases Int.le_total (exponent + significand.log2 - f.fractionBits) f.minExponent with hle | hle
    · exact .inl (by omega)
    · refine .inr ?_
      calc (2 : ℚ) ^ f.fractionBits = 2 ^ (significand.log2 + (exponent - place)) := by
            rw [← zpow_natCast]
            congr 1
            omega
        _ = 2 ^ significand.log2 * 2 ^ (exponent - place) := by
            rw [zpow_add₀ (by norm_num), zpow_natCast]
        _ ≤ significand * 2 ^ (exponent - place) := mul_le_mul_of_nonneg_right hlow hpos.le

/-- A shift to the left is a numerator, and one to the right a denominator. -/
theorem shifted_eq (significand : Nat) (shift : Int) :
    ((significand * 2 ^ shift.toNat : Nat) / (1 * 2 ^ (-shift).toNat : Nat) : ℚ)
      = significand * 2 ^ shift := by
  rcases Int.le_total 0 shift with hshift | hshift
  · obtain ⟨places, rfl⟩ := Int.eq_ofNat_of_zero_le hshift
    simp
  · obtain ⟨places, hplaces⟩ := Int.eq_ofNat_of_zero_le (Int.neg_nonneg.mpr hshift)
    obtain rfl : shift = -places := by omega
    simp [div_eq_mul_inv]

/-- Rounding gives a pattern of the sign that was asked for, not beyond infinity. -/
theorem exists_ofScaled_eq (negative : Bool) (significand : Nat) (exponent : Int) :
    ∃ bits ≤ f.infinityBits,
      (ofScaled f negative significand exponent).bits = signPart f negative + bits := by
  have hencode : ∀ s e, ∃ bits ≤ f.infinityBits,
      (encode f negative s e).bits = signPart f negative + bits := fun s e =>
    ⟨_, Nat.min_le_right _ _, bits_ofBits (Nat.min_le_right _ _)⟩
  rw [ofScaled, ofQuotient]
  split
  · exact hencode _ _
  · exact hencode _ _

/-- Rounding makes the significand whole at the last place that is kept, and stops at infinity. -/
theorem unsigned_ofScaled (negative : Bool) {significand : Nat} (hzero : significand ≠ 0)
    (exponent : Int) :
    ∃ num den : Nat, 0 < den
      ∧ (num / den : ℚ) = significand * 2 ^ (exponent - f.lastPlace significand exponent)
      ∧ (ofScaled f negative significand exponent).unsigned
        = min (f.pattern (roundDiv num den) (f.lastPlace significand exponent)) f.infinityBits := by
  refine ⟨_, _, Nat.mul_pos Nat.one_pos (Nat.two_pow_pos _), shifted_eq significand _, ?_⟩
  have hplace : max f.minExponent (exponent + quotientLog2 significand 1 - f.fractionBits)
      = f.lastPlace significand exponent := by rw [quotientLog2_one hzero, Format.lastPlace]
  simp only [ofScaled, ofQuotient, if_neg hzero, hplace]
  exact (unsigned_of_bits (bits_ofBits (Nat.min_le_right _ _)) (Nat.min_le_right _ _)).1

theorem unsigned_ofScaled_zero (negative : Bool) (exponent : Int) :
    (ofScaled f negative 0 exponent).unsigned = 0 := by
  have hencode : ofScaled f negative 0 exponent = ofBits f (signPart f negative + 0) := by
    simp [ofScaled, ofQuotient, encode, signPart]
  exact (unsigned_of_bits (hencode ▸ bits_ofBits (Nat.zero_le _)) (Nat.zero_le _)).1

/-- A number is rounded to below a pattern with an even significand exactly if it lies below the
midpoint before that pattern. -/
theorem unsigned_ofScaled_lt {t : Nat} {p : Int} (hp : f.minExponent ≤ p)
    (hlow : 2 ^ f.fractionBits < t) (hhigh : t ≤ 2 * 2 ^ f.fractionBits) (heven : t % 2 = 0)
    (hpattern : f.pattern t p ≤ f.infinityBits) (negative : Bool) (significand : Nat)
    (exponent : Int) :
    (ofScaled f negative significand exponent).unsigned < f.pattern t p
      ↔ (significand * 2 ^ exponent : ℚ) < (t - 1 / 2) * 2 ^ p := by
  have hlow' : (2 : ℚ) ^ f.fractionBits ≤ t - 1 / 2 := by
    have : ((2 ^ f.fractionBits + 1 : Nat) : ℚ) ≤ t := by exact_mod_cast hlow
    push_cast at this
    linarith
  have hhigh' : (t - 1 / 2 : ℚ) ≤ 2 * 2 ^ f.fractionBits := by
    have : (t : ℚ) ≤ ((2 * 2 ^ f.fractionBits : Nat) : ℚ) := by exact_mod_cast hhigh
    push_cast at this
    linarith
  by_cases hzero : significand = 0
  · subst hzero
    have hhidden : (0 : ℚ) < 2 ^ f.fractionBits := by positivity
    rw [unsigned_ofScaled_zero, Nat.cast_zero, zero_mul]
    exact iff_of_true (by rw [Format.pattern]; omega) (mul_pos (by linarith) (by positivity))
  obtain ⟨num, den, hden, hquotient, hunsigned⟩ :=
    unsigned_ofScaled (f := f) negative hzero exponent
  have hplaced := placed_lastPlace (f := f) hzero exponent
  generalize f.lastPlace significand exponent = place at *
  -- rounding to a whole number keeps the significand within the bounds of the format
  have hrounded : roundDiv num den ≤ 2 * 2 ^ f.fractionBits := by
    refine roundDiv_le hden ?_
    rw [hquotient]
    exact_mod_cast hplaced.lt
  have hnormal : place = f.minExponent ∨ 2 ^ f.fractionBits ≤ roundDiv num den := by
    refine hplaced.normal.imp_right fun hhidden => le_roundDiv hden ?_
    rw [hquotient]
    exact_mod_cast hhidden
  have hvalue : (significand * 2 ^ exponent : ℚ)
      = significand * 2 ^ (exponent - place) * 2 ^ place := by
    rw [mul_assoc, ← zpow_add₀ (by norm_num), sub_add_cancel]
  rw [hunsigned, min_lt_iff, or_iff_left (by omega),
    Format.pattern_lt_iff hrounded hplaced.le_exponent hnormal hp hlow hhigh,
    roundDiv_lt_iff hden heven (by omega), hquotient, hvalue,
    hplaced.scaled_lt_iff hp hlow' hhigh']

end Binary

/-! ## The limit of a format -/

namespace Format

/-- The magnitude from which on rounding to the format gives an infinity: half a place above the
largest finite number. -/
def overflow (f : Format) : ℚ :=
  (2 * 2 ^ f.fractionBits - 1 / 2) * 2 ^ (f.minExponent + (f.specialField - 2))

theorem overflow_double : double.overflow = 2 ^ 1024 - 2 ^ 970 := by
  have hplace : double.minExponent + (double.specialField - 2) = (971 : Nat) := by decide
  have hscale : ∀ k : Nat, ((2 * 2 ^ 52 - 1 / 2) * 2 ^ (k + 1) : ℚ) = 2 ^ (54 + k) - 2 ^ k := by
    intro k
    rw [pow_succ, pow_add]
    ring
  rw [overflow, hplace, zpow_natCast]
  exact hscale 970

theorem overflow_single : single.overflow = 2 ^ 128 - 2 ^ 103 := by
  have hplace : single.minExponent + (single.specialField - 2) = (104 : Nat) := by decide
  rw [overflow, hplace, zpow_natCast, single]
  ring

theorem overflow_pos (f : Format) : 0 < f.overflow := by
  have hhidden : (1 : ℚ) ≤ 2 ^ f.fractionBits := one_le_pow₀ (by norm_num)
  exact mul_pos (by linarith) (by positivity)

/-- Infinity is the pattern that comes after those of the largest finite numbers. -/
theorem pattern_eq_infinityBits (hf : 2 ≤ f.specialField) :
    f.pattern (2 * 2 ^ f.fractionBits) (f.minExponent + (f.specialField - 2)) = f.infinityBits := by
  obtain ⟨fields, hfields⟩ := Nat.exists_eq_add_of_le hf
  have hplaces : (f.minExponent + (f.specialField - 2) - f.minExponent).toNat = fields := by omega
  rw [pattern, hplaces, infinityBits, hfields, ← Nat.add_mul, Nat.add_comm]

end Format

namespace Binary

/-- Rounding gives a finite number exactly below the limit of the format. -/
theorem isFinite_ofScaled (hf : 2 ≤ f.specialField) (negative : Bool) (significand : Nat)
    (exponent : Int) :
    (ofScaled f negative significand exponent).isFinite = true
      ↔ (significand * 2 ^ exponent : ℚ) < f.overflow := by
  have hinfinity := Format.pattern_eq_infinityBits hf
  have hhidden := Nat.two_pow_pos f.fractionBits
  rw [isFinite_iff, ← hinfinity, unsigned_ofScaled_lt (by omega) (by omega) (Nat.le_refl _)
    (Nat.mul_mod_right _ _) hinfinity.le, Format.overflow]
  push_cast
  rfl

/-- From the limit on, rounding gives the infinity of the sign. -/
theorem ofScaled_eq_infinity {negative : Bool} {significand : Nat} {exponent : Int}
    (h : (ofScaled f negative significand exponent).isFinite = false) :
    ofScaled f negative significand exponent = infinity f negative := by
  obtain ⟨bits, hle, hbits⟩ := exists_ofScaled_eq (f := f) negative significand exponent
  obtain ⟨hunsigned, -⟩ := unsigned_of_bits hbits hle
  have hlast : ¬ bits < f.infinityBits := by
    rw [← hunsigned, ← isFinite_iff, h]
    simp
  apply ext_bits
  rw [hbits, Nat.le_antisymm hle (Nat.le_of_not_lt hlast)]
  exact (bits_ofBits (Nat.le_refl _)).symm

theorem natAbs_mul_one (n : Int) : (n.natAbs * 2 ^ (0 : Int) : ℚ) = |(n : ℚ)| := by
  rw [zpow_zero, mul_one, Nat.cast_natAbs, Int.cast_abs]

theorem isFinite_ofInt (hf : 2 ≤ f.specialField) (n : Int) :
    (ofInt f n).isFinite = true ↔ |(n : ℚ)| < f.overflow := by
  rw [ofInt, isFinite_ofScaled hf, natAbs_mul_one]

theorem ofInt_eq_infinity {n : Int} (h : (ofInt f n).isFinite = false) :
    ofInt f n = infinity f (n < 0) :=
  ofScaled_eq_infinity h

variable {g : Format} {x : Binary f} {q : ℚ}

/-- A number is finite with some value, and its sign is that of the value unless that is zero. -/
theorem toRat?_eq_some (h : x.toRat? = some q) :
    ∃ significand exponent, x.magnitude = .finite significand exponent
      ∧ |q| = significand * 2 ^ exponent ∧ (q ≠ 0 → x.isNegative = decide (q < 0)) := by
  rw [toRat?] at h
  split at h
  · rename_i significand exponent hmagnitude
    obtain rfl := Option.some.inj h
    have hnonneg : (0 : ℚ) ≤ significand * 2 ^ exponent := by positivity
    refine ⟨significand, exponent, hmagnitude, ?_, fun hzero => ?_⟩
    · rw [abs_mul, abs_of_nonneg hnonneg, signFactor]
      cases x.isNegative <;> simp
    · have hpos := hnonneg.lt_of_ne' (right_ne_zero_of_mul hzero)
      rw [signFactor]
      cases x.isNegative
      · simp [hnonneg]
      · simp [hpos]
  · cases h

/-- A finite number stays finite in another format exactly if it lies below the limit of that. -/
theorem isFinite_convert (hg : 2 ≤ g.specialField) (h : x.toRat? = some q) :
    (x.convert g).isFinite = true ↔ |q| < g.overflow := by
  obtain ⟨significand, exponent, hmagnitude, habs, -⟩ := toRat?_eq_some h
  rw [convert, hmagnitude, habs]
  exact isFinite_ofScaled hg _ _ _

theorem convert_eq_infinity {significand : Nat} {exponent : Int}
    (h : x.magnitude = .finite significand exponent) (hfinite : (x.convert g).isFinite = false) :
    x.convert g = infinity g x.isNegative := by
  have hscaled : x.convert g = ofScaled g x.isNegative significand exponent := by
    rw [convert, h]
  rw [hscaled] at hfinite ⊢
  exact ofScaled_eq_infinity hfinite

/-- The infinity that a finite number becomes in another format has the sign of its value. -/
theorem convert_eq_infinity_of_toRat? (hg : 2 ≤ g.specialField) (h : x.toRat? = some q)
    (hfinite : (x.convert g).isFinite = false) : x.convert g = infinity g (q < 0) := by
  have hbeyond : ¬ |q| < g.overflow := by
    rw [← isFinite_convert hg h, hfinite]
    simp
  have hzero : q ≠ 0 := by
    rintro rfl
    exact hbeyond (by simpa using g.overflow_pos)
  obtain ⟨significand, exponent, hmagnitude, -, hsign⟩ := toRat?_eq_some h
  rw [convert_eq_infinity hmagnitude hfinite, hsign hzero]

/-! ## Two roundings -/

/-- A number of the format that is not the NaN has a pattern up to infinity, and has it in the order
of the numbers. -/
theorem unsigned_lt_iff {t significand : Nat} {p exponent : Int} (hp : f.minExponent ≤ p)
    (hlow : 2 ^ f.fractionBits < t) (hhigh : t ≤ 2 * 2 ^ f.fractionBits)
    (h : x.magnitude = .finite significand exponent) :
    x.unsigned < f.pattern t p ↔ (significand * 2 ^ exponent : ℚ) < t * 2 ^ p := by
  have hholds := holds_magnitude h
  rw [unsigned_of_magnitude h, Format.pattern_lt_iff hholds.significand_lt.le hholds.le_exponent
    hholds.normal hp hlow hhigh, hholds.placed.scaled_lt_iff hp (by exact_mod_cast hlow.le)
    (by exact_mod_cast hhigh), Nat.cast_lt]

/-- An integer that does not stay finite in double precision does not in single precision. -/
theorem convert_ofInt_of_not_finite {n : Int} (h : (ofInt .double n).isFinite = false) :
    (ofInt .double n).unsigned = Format.double.infinityBits
      ∧ (ofInt .double n).convert .single = infinity .single (n < 0) := by
  rw [ofInt_eq_infinity h]
  generalize decide (n < 0) = negative
  revert negative
  decide

/-- The limit of single precision is a number of double precision. In double precision an integer
is rounded to below it exactly below the midpoint before it. -/
theorem isFinite_convert_ofInt (n : Int) :
    ((ofInt .double n).convert .single).isFinite = true
      ↔ |(n : ℚ)| < 2 ^ 128 - 2 ^ 103 - 2 ^ 74 := by
  have hpattern : Format.double.pattern (2 ^ 53 - 2 ^ 28) 75 ≤ Format.double.infinityBits := by
    decide
  have hrounded : (ofInt .double n).unsigned < Format.double.pattern (2 ^ 53 - 2 ^ 28) 75
      ↔ |(n : ℚ)| < 2 ^ 128 - 2 ^ 103 - 2 ^ 74 := by
    rw [ofInt, unsigned_ofScaled_lt (by decide) (by decide) (by decide) (by decide) hpattern,
      natAbs_mul_one]
    norm_num
  rw [← hrounded]
  cases hfinite : (ofInt .double n).isFinite with
  | false =>
    obtain ⟨hunsigned, hinfinity⟩ := convert_ofInt_of_not_finite hfinite
    rw [hunsigned, hinfinity]
    refine iff_of_false ?_ (Nat.not_lt.mpr hpattern)
    generalize decide (n < 0) = negative
    revert negative
    decide
  | true =>
    obtain ⟨significand, exponent, hmagnitude⟩ := magnitude_of_isFinite hfinite
    rw [unsigned_lt_iff (by decide) (by decide) (by decide) hmagnitude, convert, hmagnitude]
    refine (isFinite_ofScaled (by decide) _ _ _).trans ?_
    rw [Format.overflow_single]
    norm_num

theorem convert_ofInt_eq_infinity {n : Int}
    (h : ((ofInt .double n).convert .single).isFinite = false) :
    (ofInt .double n).convert .single = infinity .single (n < 0) := by
  cases hfinite : (ofInt .double n).isFinite with
  | false => exact (convert_ofInt_of_not_finite hfinite).2
  | true =>
    obtain ⟨significand, exponent, hmagnitude⟩ := magnitude_of_isFinite hfinite
    obtain ⟨bits, hle, hbits⟩ :=
      exists_ofScaled_eq (f := .double) (decide (n < 0)) n.natAbs 0
    have hsign : (ofInt .double n).isNegative = decide (n < 0) := (unsigned_of_bits hbits hle).2
    rw [convert_eq_infinity hmagnitude h, hsign]

end Binary

end ConfigBinding.Numeric
