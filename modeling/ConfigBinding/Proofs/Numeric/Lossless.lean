import ConfigBinding.Numeric.Binary
import Mathlib.Data.Nat.Log
import Mathlib.Tactic.Ring

/-!
# Numbers that rounding leaves alone

Rounding to a format changes no number that the format has. `Format.Holds` says which significands
and exponents a format keeps; a finite number decodes into such a pair (`Binary.holds_magnitude`)
and is encoded from it again (`Binary.encode_magnitude`), and `Binary.ofScaled_of_holds` shows that
rounding finds the pair, however many zeros the significand carries at its end.

So a number goes through its own format unchanged (`Binary.convert_self`), and a number of single
precision goes through double precision and back unchanged (`Binary.convert_single_double`).
-/

namespace ConfigBinding.Numeric

/-- A significand and an exponent as the format keeps them: the hidden bit is there unless the
exponent is the least one, and the number lies below infinity. -/
structure Format.Holds (f : Format) (significand : Nat) (exponent : Int) : Prop where
  significand_lt : significand < 2 * 2 ^ f.fractionBits
  le_exponent : f.minExponent ≤ exponent
  normal : exponent = f.minExponent ∨ 2 ^ f.fractionBits ≤ significand
  below_infinity :
    (exponent - f.minExponent).toNat * 2 ^ f.fractionBits + significand < f.infinityBits

namespace Binary

variable {f : Format}

/-! ## The fields of a bit pattern -/

/-- The part of a bit pattern that the sign adds. -/
def signPart (f : Format) (negative : Bool) : Nat := if negative then f.signBit else 0

theorem signBit_eq (f : Format) : f.signBit = 2 ^ f.exponentBits * 2 ^ f.fractionBits := by
  rw [Format.signBit, Nat.pow_add]

theorem infinityBits_lt_signBit (f : Format) : f.infinityBits < f.signBit := by
  rw [signBit_eq, Format.infinityBits, Format.specialField]
  have hexponent := Nat.two_pow_pos f.exponentBits
  exact Nat.mul_lt_mul_of_pos_right (by omega) (Nat.two_pow_pos _)

/-- The bits are sign, exponent field and fraction field, one behind the other. -/
theorem bits_eq (x : Binary f) :
    x.bits = signPart f x.isNegative
      + (x.exponentField * 2 ^ f.fractionBits + x.fractionField) := by
  have hlt : x.bits < 2 * f.signBit := f.two_pow_width ▸ x.bits_lt
  have hpos : 0 < f.signBit := Nat.two_pow_pos _
  -- the sign is the highest bit, so the remainder is what is left without it
  have hsign : x.bits = signPart f x.isNegative + x.bits % f.signBit := by
    rw [signPart, isNegative]
    by_cases h : f.signBit ≤ x.bits
    · rw [if_pos (by simpa using h), Nat.mod_eq_sub_mod h, Nat.mod_eq_of_lt (by omega)]
      omega
    · rw [if_neg (by simpa using h), Nat.mod_eq_of_lt (by omega)]
      omega
  have hfields : x.bits % f.signBit = x.exponentField * 2 ^ f.fractionBits + x.fractionField := by
    rw [exponentField, fractionField, signBit_eq, Nat.mul_comm (2 ^ f.exponentBits),
      Nat.mod_mul, Nat.add_comm, Nat.mul_comm (2 ^ f.fractionBits)]
  omega

theorem exponentField_lt (x : Binary f) : x.exponentField < 2 ^ f.exponentBits :=
  Nat.mod_lt _ (Nat.two_pow_pos _)

theorem fractionField_lt (x : Binary f) : x.fractionField < 2 ^ f.fractionBits :=
  Nat.mod_lt _ (Nat.two_pow_pos _)

/-- A pattern that is no NaN is kept as it is. -/
theorem bits_ofBits {negative : Bool} {bits : Nat} (h : bits ≤ f.infinityBits) :
    (ofBits f (signPart f negative + bits)).bits = signPart f negative + bits := by
  have hlt := infinityBits_lt_signBit f
  have hmod : (signPart f negative + bits) % f.signBit = bits := by
    cases negative
    · simp [signPart, Nat.mod_eq_of_lt (lt_of_le_of_lt h hlt)]
    · simp [signPart, Nat.mod_eq_of_lt (lt_of_le_of_lt h hlt)]
  have hnan : ¬ f.isNaNBits (signPart f negative + bits) = true := by
    simp only [Format.isNaNBits, hmod, decide_eq_true_eq]
    omega
  rw [ofBits, dif_neg hnan]
  apply Nat.mod_eq_of_lt
  rw [f.two_pow_width, signPart]
  split <;> omega

/-- Two numbers with the same bits are the same number. -/
theorem ext_bits {x y : Binary f} (h : x.bits = y.bits) : x = y := by
  obtain ⟨bits, _, _⟩ := x
  obtain ⟨bits', _, _⟩ := y
  obtain rfl : bits = bits' := h
  rfl

/-- A pattern with the given fields, the sign left aside, has these fields. -/
theorem fields_of_bits {x : Binary f} {negative : Bool} {exponent fraction : Nat}
    (h : x.bits = signPart f negative + (exponent * 2 ^ f.fractionBits + fraction))
    (hexponent : exponent < 2 ^ f.exponentBits) (hfraction : fraction < 2 ^ f.fractionBits) :
    x.isNegative = negative ∧ x.exponentField = exponent ∧ x.fractionField = fraction := by
  have hpos := Nat.two_pow_pos f.fractionBits
  have hbelow : exponent * 2 ^ f.fractionBits + fraction < f.signBit := by
    rw [signBit_eq]
    calc exponent * 2 ^ f.fractionBits + fraction
        < (exponent + 1) * 2 ^ f.fractionBits := by rw [Nat.succ_mul]; omega
      _ ≤ 2 ^ f.exponentBits * 2 ^ f.fractionBits := Nat.mul_le_mul_right _ hexponent
  -- the sign is a multiple of both powers, so it drops out of the remainders
  obtain ⟨signs, hsigns⟩ : ∃ signs, signPart f negative
      = signs * 2 ^ f.exponentBits * 2 ^ f.fractionBits := by
    cases negative
    · exact ⟨0, by simp [signPart]⟩
    · exact ⟨1, by simp [signPart, signBit_eq]⟩
  have hpattern : x.bits
      = (signs * 2 ^ f.exponentBits + exponent) * 2 ^ f.fractionBits + fraction := by
    rw [h, hsigns]
    ring
  refine ⟨?_, ?_, ?_⟩
  · rw [isNegative, h]
    cases negative
    · simpa [signPart] using hbelow
    · simp [signPart]
  · rw [exponentField, hpattern, Nat.mul_comm, Nat.mul_add_div hpos,
      Nat.div_eq_of_lt hfraction, Nat.add_zero, Nat.mul_comm signs, Nat.mul_add_mod,
      Nat.mod_eq_of_lt hexponent]
  · rw [fractionField, hpattern, Nat.mul_comm, Nat.mul_add_mod, Nat.mod_eq_of_lt hfraction]

/-! ## Decoding and encoding -/

/-- What a finite number decodes into is what its format keeps. -/
theorem holds_magnitude {x : Binary f} {significand : Nat} {exponent : Int}
    (h : x.magnitude = .finite significand exponent) : f.Holds significand exponent := by
  have hexponent := x.exponentField_lt
  have hfraction := x.fractionField_lt
  -- below the special exponent there is room for any fraction
  have hinfinity : x.exponentField ≠ f.specialField →
      (x.exponentField + 1) * 2 ^ f.fractionBits ≤ f.infinityBits := fun hspecial =>
    Nat.mul_le_mul_right _ (by rw [Format.specialField] at *; omega)
  rw [magnitude] at h
  split at h
  · split at h <;> simp at h
  · rename_i hspecial
    have hbound := hinfinity hspecial
    rw [Nat.succ_mul] at hbound
    split at h
    · rename_i hzero
      obtain ⟨rfl, rfl⟩ := Magnitude.finite.inj h
      rw [hzero] at hbound
      exact ⟨by omega, Int.le_refl _, .inl rfl, by simp; omega⟩
    · rename_i hpositive
      obtain ⟨rfl, rfl⟩ := Magnitude.finite.inj h
      refine ⟨by omega, by omega, .inr (Nat.le_add_right _ _), ?_⟩
      have hplace : (f.minExponent + ((x.exponentField - 1 : Nat) : Int) - f.minExponent).toNat
          = x.exponentField - 1 := by omega
      rw [hplace, Nat.sub_mul]
      have hone : 1 * 2 ^ f.fractionBits ≤ x.exponentField * 2 ^ f.fractionBits :=
        Nat.mul_le_mul_right _ (by omega)
      omega

/-- What the format keeps is encoded as a pattern below infinity. -/
theorem bits_encode {significand : Nat} {exponent : Int} (h : f.Holds significand exponent)
    (negative : Bool) :
    (encode f negative significand exponent).bits = signPart f negative
      + ((exponent - f.minExponent).toNat * 2 ^ f.fractionBits + significand) := by
  rw [encode, Nat.min_eq_left h.below_infinity.le]
  exact bits_ofBits h.below_infinity.le

/-- A finite number is encoded from what it decodes into. -/
theorem encode_magnitude {x : Binary f} {significand : Nat} {exponent : Int}
    (h : x.magnitude = .finite significand exponent) :
    encode f x.isNegative significand exponent = x := by
  apply ext_bits
  rw [bits_encode (holds_magnitude h) x.isNegative, bits_eq x]
  congr 1
  rw [magnitude] at h
  split at h
  · split at h <;> simp at h
  · split at h
    · rename_i hzero
      obtain ⟨rfl, rfl⟩ := Magnitude.finite.inj h
      simp [hzero]
    · rename_i hpositive
      obtain ⟨rfl, rfl⟩ := Magnitude.finite.inj h
      have hplace : (f.minExponent + ((x.exponentField - 1 : Nat) : Int) - f.minExponent).toNat
          = x.exponentField - 1 := by omega
      rw [hplace, ← Nat.add_assoc, ← Nat.succ_mul, Nat.succ_eq_add_one,
        Nat.sub_add_cancel (by omega)]

/-- What the format keeps decodes into what it was encoded from. -/
theorem magnitude_encode {significand : Nat} {exponent : Int} (h : f.Holds significand exponent)
    (negative : Bool) :
    (encode f negative significand exponent).magnitude = .finite significand exponent
      ∧ (encode f negative significand exponent).isNegative = negative := by
  have hbits := bits_encode h negative
  have hpos := Nat.two_pow_pos f.fractionBits
  have hinfinity := h.below_infinity
  rw [Format.infinityBits] at hinfinity
  have hspecial : f.specialField < 2 ^ f.exponentBits := by
    have := Nat.two_pow_pos f.exponentBits
    rw [Format.specialField]
    omega
  have hexponent := h.le_exponent
  by_cases hhidden : significand < 2 ^ f.fractionBits
  · -- without the hidden bit the exponent is the least one
    obtain rfl : exponent = f.minExponent := h.normal.resolve_right (by omega)
    rw [Int.sub_self, Int.toNat_zero] at hbits hinfinity
    have hfield : 0 < f.specialField := by
      by_contra hzero
      simp [Nat.eq_zero_of_not_pos hzero] at hinfinity
    obtain ⟨hsign, hzero, hfraction⟩ := fields_of_bits hbits (by omega) hhidden
    refine ⟨?_, hsign⟩
    rw [magnitude, if_neg (by omega), if_pos hzero, hfraction]
  · -- the hidden bit is added to the exponent field, which it makes greater by one
    obtain ⟨fraction, rfl⟩ := Nat.exists_eq_add_of_le (Nat.le_of_not_lt hhidden)
    have hfraction : fraction < 2 ^ f.fractionBits := by have := h.significand_lt; omega
    have hfield : (exponent - f.minExponent).toNat + 1 < f.specialField :=
      lt_of_mul_lt_mul_right (by rw [Nat.succ_mul]; omega) (Nat.zero_le (2 ^ f.fractionBits))
    have hbits' : (encode f negative (2 ^ f.fractionBits + fraction) exponent).bits
        = signPart f negative
          + (((exponent - f.minExponent).toNat + 1) * 2 ^ f.fractionBits + fraction) := by
      rw [hbits]
      ring
    obtain ⟨hsign, hone, hrest⟩ := fields_of_bits hbits' (by omega) hfraction
    refine ⟨?_, hsign⟩
    rw [magnitude, if_neg (by omega), if_neg (by omega), hone, hrest]
    congr 1
    omega

/-- The one NaN is what decodes into no number. -/
theorem eq_nan {x : Binary f} (h : x.magnitude = .nan) : x = nan f := by
  refine ext_bits (x.nan_unique ?_)
  have hbits := x.bits_eq
  have hlt := x.fractionField_lt
  have hsign : f.infinityBits + 2 ^ f.fractionBits = f.signBit := by
    rw [signBit_eq, Format.infinityBits, Format.specialField, ← Nat.succ_mul, Nat.succ_eq_add_one,
      Nat.sub_add_cancel (Nat.two_pow_pos _)]
  rw [magnitude] at h
  split at h
  · rename_i hspecial
    split at h
    · simp at h
    · rename_i hfraction
      rw [hspecial] at hbits
      have hmod : x.bits % f.signBit = f.infinityBits + x.fractionField := by
        rw [hbits, ← Format.infinityBits, signPart]
        split
        · rw [Nat.add_mod_left, Nat.mod_eq_of_lt (by omega)]
        · rw [Nat.zero_add, Nat.mod_eq_of_lt (by omega)]
      simp only [Format.isNaNBits, hmod, decide_eq_true_eq]
      omega
  · split at h <;> simp at h

/-- An infinity is known by its sign. -/
theorem eq_infinity {x : Binary f} (h : x.magnitude = .infinite) : x = infinity f x.isNegative := by
  apply ext_bits
  have hinfinity : (infinity f x.isNegative).bits = signPart f x.isNegative + f.infinityBits :=
    bits_ofBits (Nat.le_refl _)
  rw [hinfinity, bits_eq x]
  congr 1
  rw [magnitude] at h
  split at h
  · rename_i hspecial
    split at h
    · rename_i hfraction
      rw [hspecial, hfraction, Format.infinityBits, Nat.add_zero]
    · simp at h
  · split at h <;> simp at h

/-! ## Rounding -/

/-- The logarithm of a natural number over one is that of the number. -/
theorem quotientLog2_one {n : Nat} (h : n ≠ 0) : quotientLog2 n 1 = n.log2 := by
  have hle : 2 ^ n.log2 ≤ n := Nat.log2_self_le h
  have hone : Nat.log2 1 = 0 := by decide
  have hguess : ((n.log2 : Int) - (Nat.log2 1 : Nat)) = n.log2 := by rw [hone]; omega
  simp only [quotientLog2, hguess, Int.toNat_natCast, Nat.one_mul]
  rw [if_neg]
  have hzero : (-(n.log2 : Int)).toNat = 0 := by omega
  rw [hzero, Nat.pow_zero, Nat.mul_one]
  omega

/-- A quotient without remainder is not rounded. -/
theorem roundDiv_mul (n : Nat) {den : Nat} (h : 0 < den) : roundDiv (n * den) den = n := by
  simp [roundDiv, Nat.mul_mod_left, Nat.mul_div_cancel _ h, h]

/-- Doubling a positive number adds one to its logarithm. -/
theorem log2_mul_two_pow {n : Nat} (h : n ≠ 0) (k : Nat) : (n * 2 ^ k).log2 = n.log2 + k := by
  induction k with
  | zero => simp
  | succ k ih =>
    have hne : n * 2 ^ k ≠ 0 := Nat.mul_ne_zero h (Nat.two_pow_pos k).ne'
    rw [Nat.pow_succ, ← Nat.mul_assoc, Nat.mul_comm (n * 2 ^ k), Nat.log2_two_mul hne, ih]
    omega

/-- The place of the last bit is the exponent that the format keeps. -/
theorem place_of_holds {significand : Nat} {exponent : Int} (h : f.Holds significand exponent)
    (hzero : significand ≠ 0) :
    max f.minExponent (exponent + significand.log2 - f.fractionBits) = exponent := by
  have hlog : significand.log2 < f.fractionBits + 1 :=
    (Nat.log2_lt hzero).mpr (by have := h.significand_lt; rw [Nat.pow_succ]; omega)
  have hle := h.le_exponent
  rcases h.normal with hleast | hhidden
  · omega
  · have := (Nat.le_log2 hzero).mpr hhidden
    omega

/-- The format keeps zero with the least exponent only. -/
theorem exponent_of_holds_zero {exponent : Int} (h : f.Holds 0 exponent) :
    exponent = f.minExponent :=
  h.normal.resolve_right (by have := Nat.two_pow_pos f.fractionBits; omega)

/-- Rounding finds the significand that the format keeps behind zeros at the end. -/
theorem ofScaled_of_holds {significand : Nat} {exponent : Int} (h : f.Holds significand exponent)
    (negative : Bool) (zeros : Nat) :
    ofScaled f negative (significand * 2 ^ zeros) (exponent - zeros)
      = encode f negative significand exponent := by
  by_cases hzero : significand = 0
  · subst hzero
    simp [ofScaled, ofQuotient, exponent_of_holds_zero h]
  have hne : significand * 2 ^ zeros ≠ 0 := Nat.mul_ne_zero hzero (Nat.two_pow_pos _).ne'
  have hplace : max f.minExponent
      (exponent - zeros + quotientLog2 (significand * 2 ^ zeros) 1 - f.fractionBits)
        = exponent := by
    rw [quotientLog2_one hne, log2_mul_two_pow hzero]
    exact Eq.trans (by congr 1; omega) (place_of_holds h hzero)
  simp only [ofScaled, ofQuotient, if_neg hne, hplace]
  -- what is cut off are the zeros and nothing else
  have hshift : (exponent - zeros - exponent).toNat = 0 := by omega
  have hback : (-(exponent - zeros - exponent)).toNat = zeros := by omega
  rw [hshift, hback, Nat.pow_zero, Nat.mul_one, Nat.one_mul, roundDiv_mul _ (Nat.two_pow_pos _)]

/-- Rounding gives a short significand the zeros at its end that the format asks for. -/
theorem ofScaled_of_holds_mul {significand zeros : Nat} {exponent : Int}
    (h : f.Holds (significand * 2 ^ zeros) (exponent - zeros)) (hzero : significand ≠ 0)
    (negative : Bool) :
    ofScaled f negative significand exponent
      = encode f negative (significand * 2 ^ zeros) (exponent - zeros) := by
  have hne : significand * 2 ^ zeros ≠ 0 := Nat.mul_ne_zero hzero (Nat.two_pow_pos _).ne'
  have hplace : max f.minExponent (exponent + quotientLog2 significand 1 - f.fractionBits)
      = exponent - zeros := by
    rw [quotientLog2_one hzero, ← place_of_holds h hne, log2_mul_two_pow hzero]
    congr 1
    omega
  simp only [ofScaled, ofQuotient, if_neg hzero, hplace]
  have hshift : (exponent - (exponent - zeros)).toNat = zeros := by omega
  have hback : (-(exponent - (exponent - zeros))).toNat = 0 := by omega
  rw [hshift, hback, Nat.pow_zero, Nat.mul_one, ← Nat.mul_one (significand * 2 ^ zeros),
    roundDiv_mul _ Nat.one_pos, Nat.mul_one]

/-- Rounding a number to its own format leaves it as it is. -/
theorem convert_self (x : Binary f) : x.convert f = x := by
  rw [convert]
  cases hmagnitude : x.magnitude with
  | nan => exact (eq_nan hmagnitude).symm
  | infinite => exact (eq_infinity hmagnitude).symm
  | finite significand exponent =>
    have := ofScaled_of_holds (holds_magnitude hmagnitude) x.isNegative 0
    rw [Nat.pow_zero, Nat.mul_one, Int.natCast_zero, Int.sub_zero] at this
    exact this.trans (encode_magnitude hmagnitude)

/-! ## Single precision inside double precision -/

/-- What single precision keeps, double precision keeps with zeros at the end of the
significand. -/
theorem holds_double_of_single {significand : Nat} {exponent : Int}
    (h : Format.single.Holds significand exponent) (hzero : significand ≠ 0) :
    ∃ zeros : Nat, Format.double.Holds (significand * 2 ^ zeros) (exponent - zeros) := by
  have hlog : significand.log2 < 24 :=
    (Nat.log2_lt hzero).mpr (by simpa [Format.single] using h.significand_lt)
  have hlow : 2 ^ significand.log2 ≤ significand := Nat.log2_self_le hzero
  have hhigh : significand < 2 ^ (significand.log2 + 1) := Nat.lt_log2_self
  have hleast : -149 ≤ exponent := h.le_exponent
  have hinfinity : (exponent + 149).toNat * 2 ^ 23 + significand < 255 * 2 ^ 23 := h.below_infinity
  -- as many zeros as bring the highest bit to the place of the hidden one
  refine ⟨52 - significand.log2, ?_⟩
  generalize hzeros : 52 - significand.log2 = zeros
  have hhidden : 2 ^ 52 ≤ significand * 2 ^ zeros := by
    calc 2 ^ 52 = 2 ^ significand.log2 * 2 ^ zeros := by rw [← Nat.pow_add]; congr 1; omega
      _ ≤ significand * 2 ^ zeros := Nat.mul_le_mul_right _ hlow
  have hbound : significand * 2 ^ zeros < 2 * 2 ^ 52 := by
    calc significand * 2 ^ zeros < 2 ^ (significand.log2 + 1) * 2 ^ zeros :=
          Nat.mul_lt_mul_of_pos_right hhigh (Nat.two_pow_pos _)
      _ = 2 * 2 ^ 52 := by rw [← Nat.pow_add, ← Nat.pow_succ']; congr 1; omega
  refine ⟨hbound, ?_, .inr hhidden, ?_⟩
  · show (-1074 : Int) ≤ exponent - zeros
    omega
  · have hsmall : (exponent + 149).toNat < 255 :=
      lt_of_mul_lt_mul_right (lt_of_le_of_lt (Nat.le_add_right _ _) hinfinity) (Nat.zero_le _)
    have hplaces : (exponent - zeros - Format.double.minExponent).toNat ≤ 2000 := by
      have : Format.double.minExponent = -1074 := by decide
      omega
    have hdouble : 2000 * 2 ^ 52 + 2 * 2 ^ 52 < Format.double.infinityBits := by decide
    calc (exponent - zeros - Format.double.minExponent).toNat * 2 ^ 52 + significand * 2 ^ zeros
        < 2000 * 2 ^ 52 + 2 * 2 ^ 52 := add_lt_add_of_le_of_lt (Nat.mul_le_mul_right _ hplaces) hbound
      _ < Format.double.infinityBits := hdouble

/-- A number of single precision goes through double precision unchanged. -/
theorem convert_single_double (x : Binary32) : (x.convert .double).convert .single = x := by
  have hnan : (nan Format.double).magnitude = .nan := by decide
  have hinfinity : ∀ negative, (infinity Format.double negative).magnitude = .infinite
      ∧ (infinity Format.double negative).isNegative = negative := by decide
  cases hmagnitude : x.magnitude with
  | nan =>
    have hdouble : x.convert .double = nan .double := by rw [convert, hmagnitude]
    rw [hdouble, convert, hnan]
    exact (eq_nan hmagnitude).symm
  | infinite =>
    have hdouble : x.convert .double = infinity .double x.isNegative := by rw [convert, hmagnitude]
    rw [hdouble, convert, (hinfinity _).1, (hinfinity _).2]
    exact (eq_infinity hmagnitude).symm
  | finite significand exponent =>
    have hholds := holds_magnitude hmagnitude
    have hdouble : x.convert .double = ofScaled .double x.isNegative significand exponent := by
      rw [convert, hmagnitude]
    by_cases hzero : significand = 0
    · -- zero has no highest bit; both formats keep it with their least exponent
      subst hzero
      have hkept : Format.double.Holds 0 Format.double.minExponent :=
        ⟨by decide, by decide, .inl rfl, by decide⟩
      have hencode : ofScaled .double x.isNegative 0 exponent
          = encode .double x.isNegative 0 Format.double.minExponent := by
        simp [ofScaled, ofQuotient]
      obtain ⟨hzero, hsign⟩ := magnitude_encode hkept x.isNegative
      rw [hdouble, hencode, convert, hzero, hsign]
      have hback := encode_magnitude hmagnitude
      rw [exponent_of_holds_zero hholds] at hback
      simpa [ofScaled, ofQuotient] using hback
    · obtain ⟨zeros, hkept⟩ := holds_double_of_single hholds hzero
      obtain ⟨hwide, hsign⟩ := magnitude_encode hkept x.isNegative
      rw [hdouble, ofScaled_of_holds_mul hkept hzero, convert, hwide, hsign]
      exact (ofScaled_of_holds hholds x.isNegative zeros).trans (encode_magnitude hmagnitude)

end Binary

end ConfigBinding.Numeric
