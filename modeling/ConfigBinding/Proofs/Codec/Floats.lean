import ConfigBinding.Proofs.Codec.Reading
import ConfigBinding.Proofs.Numeric.Overflow
import ConfigBinding.Schema.TypeTable

/-!
# Which numbers are read as floats

A float type is read from every finite number, whether that is a 64-bit integer, a float or a big
integer, and the number is rounded to it. Rounding does not fail: what is too large for the type is
not refused but read as an infinity (`TypeTable.readsFloats`). The limits are those of rounding,
`2 ^ 1024 - 2 ^ 970` in double precision and `2 ^ 128 - 2 ^ 103` in single precision, except that
integers reach single precision by way of double precision, and that first rounding carries them
over the limit half a place early (`Value.singleLimit`).
-/

namespace ConfigBinding

open Numeric

/-- The magnitude from which on a finite number is read as an infinity of single precision. -/
def Value.singleLimit : Value → ℚ
  | .number (.float _) => 2 ^ 128 - 2 ^ 103
  | _ => 2 ^ 128 - 2 ^ 103 - 2 ^ 74

namespace TypeTable

variable {ts : TypeTable} {o : Options} {v : Value} {q : ℚ}

/-- How a value on its own that is the finite number `q` is read as a float. It is never refused. -/
structure ReadsFloats (ts : TypeTable) (o : Options) (v : Value) (q : ℚ) : Prop where
  /-- In double precision it is read as a finite number exactly below the limit of rounding, and
  beyond as an infinity. -/
  double : ∃ x : Binary64, (ts.codec .double).readValue o v = .ok (.double x)
    ∧ (x.isFinite = true ↔ |q| < 2 ^ 1024 - 2 ^ 970)
    ∧ (x.isFinite = false → x = Binary.infinity .double (q < 0))
  /-- So it is in single precision, with a limit that depends on the kind of the number. -/
  single : ∃ x : Binary32, (ts.codec .single).readValue o v = .ok (.single x)
    ∧ (x.isFinite = true ↔ |q| < v.singleLimit)
    ∧ (x.isFinite = false → x = Binary.infinity .single (q < 0))

/-- What is read as a float is the double-precision number that a value is rounded to. -/
theorem readsFloats_of_toDouble? (ho : o.registry.IsBuiltin) {x : Binary64}
    (hx : v.toDouble? = some x) (hdouble : x.isFinite = true ↔ |q| < Format.double.overflow)
    (hinfinite : x.isFinite = false → x = Binary.infinity .double (q < 0))
    (hsingle : (x.convert .single).isFinite = true ↔ |q| < v.singleLimit)
    (hinfinite' : (x.convert .single).isFinite = false →
      x.convert .single = Binary.infinity .single (q < 0)) :
    ts.ReadsFloats o v q where
  double := ⟨x, (Codec.readValue_double ho).mpr ⟨x, hx, rfl⟩,
    Format.overflow_double ▸ hdouble, hinfinite⟩
  single := ⟨x.convert .single, (Codec.readValue_single ho).mpr ⟨x, hx, rfl⟩, hsingle, hinfinite'⟩

/-- With the built-in converters, every finite number is read as a float of either precision, and
what is too large for it as an infinity. -/
theorem readsFloats (ho : o.registry.IsBuiltin) (hq : v.toRat? = some q) :
    ts.ReadsFloats o v q := by
  have hint : ∀ n : Int, v.toDouble? = some (Binary.ofInt .double n) → (n : ℚ) = q →
      v.singleLimit = 2 ^ 128 - 2 ^ 103 - 2 ^ 74 → ts.ReadsFloats o v q := by
    rintro n hn rfl hlimit
    have hsign : decide ((n : ℚ) < 0) = decide (n < 0) := by simp
    refine readsFloats_of_toDouble? ho hn (Binary.isFinite_ofInt (by decide) n) ?_
      (hlimit ▸ Binary.isFinite_convert_ofInt n) ?_
    · rw [hsign]
      exact Binary.ofInt_eq_infinity
    · rw [hsign]
      exact Binary.convert_ofInt_eq_infinity
  cases v with
  | number m =>
    cases m with
    | integer i => exact hint i.toInt rfl (Option.some.inj hq) rfl
    | float x =>
      have hsingle := Binary.isFinite_convert (g := .single) (by decide) hq
      have hdouble := Binary.isFinite_convert (g := .double) (by decide) hq
      rw [Binary.convert_self] at hdouble
      rw [Format.overflow_single] at hsingle
      refine readsFloats_of_toDouble? ho rfl hdouble ?_ hsingle
        (Binary.convert_eq_infinity_of_toRat? (by decide) hq)
      intro hinfinite
      rw [← Binary.convert_self x] at hinfinite ⊢
      exact Binary.convert_eq_infinity_of_toRat? (by decide) hq hinfinite
  | bigInt n => exact hint n rfl (Option.some.inj hq) rfl
  | _ => cases hq

end TypeTable

namespace Example

/-- The least integer that double precision has no place for. -/
theorem readsFloats_limit :
    (Value.bigInt (2 ^ 1024 - 2 ^ 970)).toRat? = some (2 ^ 1024 - 2 ^ 970)
      ∧ (({} : TypeTable).codec .double).readValue {} (.bigInt (2 ^ 1024 - 2 ^ 970))
        = .ok (.double (Binary.infinity .double false)) := by
  have hq : (Value.bigInt (2 ^ 1024 - 2 ^ 970)).toRat? = some (2 ^ 1024 - 2 ^ 970) := by
    simp only [Value.toRat?, Int.cast_sub, Int.cast_pow, Int.cast_ofNat]
  have hpos : (0 : ℚ) < 2 ^ 1024 - 2 ^ 970 :=
    sub_pos.mpr (pow_lt_pow_right₀ (by norm_num) (by decide))
  have hreads : TypeTable.ReadsFloats {} {} (.bigInt (2 ^ 1024 - 2 ^ 970)) (2 ^ 1024 - 2 ^ 970) :=
    TypeTable.readsFloats ⟨rfl, rfl⟩ hq
  obtain ⟨x, hx, hfinite, hinfinite⟩ := hreads.double
  rw [abs_of_pos hpos] at hfinite
  have hx' : x.isFinite = false := by simpa using hfinite
  have hsign : decide ((2 ^ 1024 - 2 ^ 970 : ℚ) < 0) = false := decide_eq_false hpos.not_gt
  rw [hsign] at hinfinite
  exact ⟨hq, hinfinite hx' ▸ hx⟩

/-- Numbers that are too large for a float type are read all the same, and become infinities. -/
theorem readValue_tooLarge_infinite :
    (({} : TypeTable).codec .double).readValue {} (.bigInt (2 ^ 1024 : Nat))
        = .ok (.double (Binary.infinity .double false))
      ∧ (({} : TypeTable).codec .single).readValue {} (.bigInt (2 ^ 128 : Nat))
        = .ok (.single (Binary.infinity .single false))
      ∧ (Binary.infinity .double false).isFinite = false
      ∧ (Binary.infinity .single false).isFinite = false := by
  have hdouble : Binary.ofInt .double (2 ^ 1024 : Nat) = Binary.infinity .double false := by
    decide +kernel
  have hsingle : (Binary.ofInt .double (2 ^ 128 : Nat)).convert .single
      = Binary.infinity .single false := by
    decide +kernel
  exact ⟨(Codec.readValue_double ⟨rfl, rfl⟩).mpr ⟨_, rfl, congrArg _ hdouble.symm⟩,
    (Codec.readValue_single ⟨rfl, rfl⟩).mpr ⟨_, rfl, congrArg _ hsingle.symm⟩,
    by decide, by decide⟩

end Example

end ConfigBinding
