import ConfigBinding.Text.CaseTable

/-!
# Letter case

Classes and case changes of characters. ASCII is decided by core's own functions, every other
character by the Unicode data of `Text.CaseTable`; so an ASCII name is read without a table, and
its case changes keep it ASCII and one character long per character.
-/

namespace ConfigBinding.Text.Case

/-- Whether a character lies in ASCII, where core's functions on `Char` decide. -/
def isAscii (c : Char) : Bool := c.toNat < 128

/-- A capital letter, or another character with the property `Uppercase`. -/
def isUppercase (c : Char) : Bool :=
  if isAscii c then c.isUpper else Run.anyContains uppercaseRuns c.toNat

/-- A small letter, or another character with the property `Lowercase`. -/
def isLowercase (c : Char) : Bool :=
  if isAscii c then c.isLower else Run.anyContains lowercaseRuns c.toNat

/-- A letter, a digit or another number. -/
def isAlphanumeric (c : Char) : Bool :=
  if isAscii c then c.isAlphanum else Run.anyContains alphanumericRuns c.toNat

/-- The characters that the tables put in place of the code point `n`. -/
private def changeCase (expansions : List (Nat × List Nat)) (shifts : List ShiftRun) (n : Nat) :
    List Char :=
  match expansions.lookup n with
  | some ns => ns.map Char.ofNat
  | none => [Char.ofNat ((ShiftRun.shift? shifts n).getD n)]

/-- The uppercase form of a character; a few have more than one character. -/
def uppercase (c : Char) : List Char :=
  if isAscii c then [c.toUpper] else changeCase uppercaseExpansions uppercaseShifts c.toNat

/-- The lowercase form of a character; a few have more than one character. -/
def lowercase (c : Char) : List Char :=
  if isAscii c then [c.toLower] else changeCase lowercaseExpansions lowercaseShifts c.toNat

theorem isUppercase_of_isAscii {c : Char} (h : isAscii c = true) : isUppercase c = c.isUpper := by
  simp [isUppercase, h]

theorem isLowercase_of_isAscii {c : Char} (h : isAscii c = true) : isLowercase c = c.isLower := by
  simp [isLowercase, h]

theorem isAlphanumeric_of_isAscii {c : Char} (h : isAscii c = true) :
    isAlphanumeric c = c.isAlphanum := by
  simp [isAlphanumeric, h]

theorem uppercase_of_isAscii {c : Char} (h : isAscii c = true) : uppercase c = [c.toUpper] := by
  simp [uppercase, h]

theorem lowercase_of_isAscii {c : Char} (h : isAscii c = true) : lowercase c = [c.toLower] := by
  simp [lowercase, h]

/-! ## Letters of ASCII

A change of case moves the code point of a letter by 32, so what two changes in a row come to is
arithmetic. -/

section Letters

variable {c : Char}

theorem isUpper_iff_val : c.isUpper = true ↔ 'A'.val ≤ c.val ∧ c.val ≤ 'Z'.val :=
  decide_eq_true_iff

theorem isLower_iff_val : c.isLower = true ↔ 'a'.val ≤ c.val ∧ c.val ≤ 'z'.val :=
  (Bool.and_eq_true_iff ..).trans (and_congr decide_eq_true_iff decide_eq_true_iff)

theorem isUpper_iff : c.isUpper = true ↔ 65 ≤ c.toNat ∧ c.toNat ≤ 90 := by
  rw [isUpper_iff_val, UInt32.le_iff_toNat_le, UInt32.le_iff_toNat_le]
  rfl

theorem isLower_iff : c.isLower = true ↔ 97 ≤ c.toNat ∧ c.toNat ≤ 122 := by
  rw [isLower_iff_val, UInt32.le_iff_toNat_le, UInt32.le_iff_toNat_le]
  rfl

theorem isAlpha_iff : c.isAlpha = true ↔ c.isUpper = true ∨ c.isLower = true :=
  Bool.or_eq_true_iff ..

theorem isAlpha_of_isUpper (h : c.isUpper = true) : c.isAlpha = true := isAlpha_iff.mpr (.inl h)

theorem isAlphanum_of_isAlpha (h : c.isAlpha = true) : c.isAlphanum = true :=
  (Bool.or_eq_true_iff ..).mpr (.inl h)

theorem toNat_toLower (c : Char) :
    c.toLower.toNat = if c.isUpper then c.toNat + 32 else c.toNat := by
  split
  case isTrue h =>
    obtain ⟨-, hle⟩ := isUpper_iff.mp h
    obtain ⟨hvalid, hmoved⟩ : ∃ hvalid, c.toLower = ⟨c.val + ('a'.val - 'A'.val), hvalid⟩ :=
      ⟨_, dif_pos (isUpper_iff_val.mp h)⟩
    have hshift : ('a'.val - 'A'.val).toNat = 32 := rfl
    rw [hmoved, ← Char.toNat_val, UInt32.toNat_add, Char.toNat_val, hshift]
    omega
  case isFalse h => exact congrArg Char.toNat (dif_neg (h ∘ isUpper_iff_val.mpr))

theorem toNat_toUpper (c : Char) :
    c.toUpper.toNat = if c.isLower then c.toNat - 32 else c.toNat := by
  split
  case isTrue h =>
    obtain ⟨hle, hle'⟩ := isLower_iff.mp h
    obtain ⟨hvalid, hmoved⟩ : ∃ hvalid, c.toUpper = ⟨c.val + ('A'.val - 'a'.val), hvalid⟩ :=
      ⟨_, dif_pos (isLower_iff_val.mp h)⟩
    -- the shift is negative, so it wraps around
    have hshift : ('A'.val - 'a'.val).toNat = 2 ^ 32 - 32 := rfl
    rw [hmoved, ← Char.toNat_val, UInt32.toNat_add, Char.toNat_val, hshift]
    omega
  case isFalse h => exact congrArg Char.toNat (dif_neg (h ∘ isLower_iff_val.mpr))

theorem isUpper_toLower (c : Char) : c.toLower.isUpper = false := by
  rw [← Bool.not_eq_true, isUpper_iff, toNat_toLower]
  split
  case isTrue h => rw [isUpper_iff] at h; omega
  case isFalse h => rwa [isUpper_iff] at h

theorem toLower_of_not_isUpper (h : c.isUpper = false) : c.toLower = c :=
  Char.toNat_inj.mp (by rw [toNat_toLower, h, if_neg Bool.false_ne_true])

theorem toLower_toLower (c : Char) : c.toLower.toLower = c.toLower :=
  toLower_of_not_isUpper (isUpper_toLower c)

theorem toLower_toUpper (c : Char) : c.toUpper.toLower = c.toLower := by
  apply Char.toNat_inj.mp
  simp only [toNat_toLower, isUpper_iff, toNat_toUpper, isLower_iff]
  grind

theorem isAlpha_toLower (c : Char) : c.toLower.isAlpha = c.isAlpha := by
  rw [Bool.eq_iff_iff]
  simp only [isAlpha_iff, isUpper_iff, isLower_iff, toNat_toLower]
  grind

end Letters

end ConfigBinding.Text.Case
