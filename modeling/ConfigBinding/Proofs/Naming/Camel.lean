import ConfigBinding.Naming
import Mathlib.Tactic.SplitIfs

/-!
# Camel case word by word

The words of a name are its maximal runs of letters and digits (`Naming.words`). Camel case reads a
name from left to right and knows only where the next letter stands; for ASCII names this comes to a
change of each word on its own (`Naming.inWord`), with the changed words one after the other
(`Naming.joinWords`).

The proof follows the scan. A name is cut at each separator, so that its first piece is what is left
of the word that is being read, and there is an invariant for each position
(`camelFrom_inside_and_start`, `camelFrom_opening`). What does not depend on the scan, such as where
separators stand and how many there are, is then said of words only.
-/

namespace ConfigBinding.Naming

open Text.Case

/-! ## Words -/

/-- The pieces between separators; two separators in a row have an empty piece between them. -/
def pieces (name : List Char) : List (List Char) :=
  name.splitOnP fun c => !c.isAlphanum

/-- The maximal runs of letters and digits in a name. -/
def words (name : List Char) : List (List Char) :=
  (pieces name).filter (· ≠ [])

/-- Characters that separate words. -/
def IsGap (gap : List Char) : Prop := ∀ c ∈ gap, c.isAlphanum = false

section Words

variable {name front back gap : List Char} {c : Char}

theorem pieces_cons_of_separator (hc : c.isAlphanum = false) (name : List Char) :
    pieces (c :: name) = [] :: pieces name := by
  simp [pieces, List.splitOnP_cons_eq_if_modifyHead, hc]

/-- A letter or digit stands at the front of the first piece. -/
theorem pieces_cons_of_alphanum (hc : c.isAlphanum = true) (name : List Char) :
    ∃ piece rest, pieces name = piece :: rest ∧ pieces (c :: name) = (c :: piece) :: rest := by
  obtain ⟨piece, rest, hpieces⟩ :=
    List.exists_cons_of_ne_nil (List.splitOnP_ne_nil (fun c => !c.isAlphanum) name)
  refine ⟨piece, rest, hpieces, ?_⟩
  simp [pieces, List.splitOnP_cons_eq_if_modifyHead, hc, hpieces]

/-- A separator ends the words before it. -/
theorem words_append_cons (hc : c.isAlphanum = false) :
    words (front ++ c :: back) = words front ++ words back := by
  simp [words, pieces, List.splitOnP_append_cons, hc]

theorem words_cons_of_separator (hc : c.isAlphanum = false) : words (c :: back) = words back := by
  simp [words, pieces_cons_of_separator hc]

theorem words_gap_append (hgap : IsGap gap) : words (gap ++ back) = words back := by
  induction gap with
  | nil => rfl
  | cons c gap ih =>
    obtain ⟨hc, hrest⟩ := List.forall_mem_cons.mp hgap
    rw [List.cons_append, words_cons_of_separator hc, ih hrest]

/-- Any number of separators, at least one, ends the words before them. -/
theorem words_append_gap (hgap : IsGap gap) (hne : gap ≠ []) :
    words (front ++ gap ++ back) = words front ++ words back := by
  obtain ⟨c, rest, rfl⟩ := List.exists_cons_of_ne_nil hne
  obtain ⟨hc, hrest⟩ := List.forall_mem_cons.mp hgap
  rw [List.append_assoc, List.cons_append, words_append_cons hc, words_gap_append hrest]

/-- Separators at either end do not count. -/
theorem words_between_gaps {gap' : List Char} (hgap : IsGap gap) (hgap' : IsGap gap') :
    words (gap ++ name ++ gap') = words name := by
  rw [List.append_assoc, words_gap_append hgap]
  cases gap' with
  | nil => rw [List.append_nil]
  | cons c rest =>
    obtain ⟨hc, hrest⟩ := List.forall_mem_cons.mp hgap'
    have hnone : words rest = [] := by
      have hrest_nil : words (rest ++ []) = words [] := words_gap_append hrest
      simpa [words, pieces, List.splitOnP_nil] using hrest_nil
    rw [words_append_cons hc, hnone, List.append_nil]

/-- The words one after the other are the letters and digits of the name. -/
theorem flatten_words (name : List Char) : (words name).flatten = name.filter Char.isAlphanum := by
  have hpieces : (pieces name).flatten = name.filter Char.isAlphanum := by
    induction name with
    | nil => rfl
    | cons c name ih =>
      by_cases hc : c.isAlphanum = true
      · obtain ⟨piece, rest, htail, hcons⟩ := pieces_cons_of_alphanum hc name
        rw [hcons, List.filter_cons_of_pos hc, ← ih, htail]
        simp
      · rw [Bool.not_eq_true] at hc
        rw [pieces_cons_of_separator hc, List.filter_cons_of_neg (by simp [hc]), ← ih]
        simp
  rw [words, ← hpieces]
  induction pieces name with
  | nil => rfl
  | cons piece rest ih => cases piece <;> simp_all

end Words

/-! ## The change of a word -/

/-- A character behind the first of a word, by the character after it: a capital is kept before a
small letter only. -/
def later (c : Char) (next : Option Char) : Char :=
  if c.isUpper then (if next.any Char.isLower then c else c.toLower) else c

/-- The characters behind the first of a word. -/
def laterOf : List Char → List Char
  | [] => []
  | c :: rest => later c rest.head? :: laterOf rest

/-- A word, with `change` made to its first character. -/
def inWord (change : Char → Char) : List Char → List Char
  | [] => []
  | c :: rest => change c :: laterOf rest

/-- The first word begins small, and each other word with a capital. -/
def joinWords : List (List Char) → List Char
  | [] => []
  | word :: rest => inWord Char.toLower word ++ rest.flatMap (inWord Char.toUpper)

theorem toLower_later (c : Char) (next : Option Char) : (later c next).toLower = c.toLower := by
  unfold later
  split_ifs <;> simp only [toLower_toLower]

theorem map_toLower_laterOf (word : List Char) :
    (laterOf word).map Char.toLower = word.map Char.toLower := by
  induction word with
  | nil => rfl
  | cons c rest ih => rw [laterOf, List.map_cons, toLower_later, ih, List.map_cons]

theorem map_toLower_inWord {change : Char → Char} (hchange : ∀ c, (change c).toLower = c.toLower)
    (word : List Char) : (inWord change word).map Char.toLower = word.map Char.toLower := by
  cases word with
  | nil => rfl
  | cons c rest => rw [inWord, List.map_cons, hchange, map_toLower_laterOf, List.map_cons]

/-- No letter or digit is lost, and none is moved. -/
theorem map_toLower_joinWords (ws : List (List Char)) :
    (joinWords ws).map Char.toLower = ws.flatten.map Char.toLower := by
  cases ws with
  | nil => rfl
  | cons word rest =>
    have hrest : (rest.flatMap (inWord Char.toUpper)).map Char.toLower
        = rest.flatten.map Char.toLower := by
      induction rest with
      | nil => rfl
      | cons word rest ih =>
        rw [List.flatMap_cons, List.map_append, ih,
          map_toLower_inWord toLower_toUpper, List.flatten_cons, List.map_append]
    rw [joinWords, List.map_append, hrest, map_toLower_inWord toLower_toLower,
      List.flatten_cons, List.map_append]

/-- What begins with a word begins small. -/
theorem isUpper_head?_joinWords {ws : List (List Char)} (hwords : ∀ word ∈ ws, word ≠ [])
    {c : Char} (h : (joinWords ws).head? = some c) : c.isUpper = false := by
  cases ws with
  | nil => cases h
  | cons word rest =>
    obtain ⟨first, later, rfl⟩ := List.exists_cons_of_ne_nil (hwords word List.mem_cons_self)
    obtain rfl : first.toLower = c := by simpa [joinWords, inWord] using h
    exact isUpper_toLower first

/-! ## The scan -/

/-- The characters of a name are all in ASCII. -/
def IsAscii (name : List Char) : Prop := ∀ c ∈ name, isAscii c = true

theorem startsLowercase_eq {name : List Char} (h : IsAscii name) :
    startsLowercase name = name.head?.any Char.isLower := by
  cases name with
  | nil => rfl
  | cons c name =>
    rw [startsLowercase, isLowercase_of_isAscii (h c List.mem_cons_self)]
    rfl

/-- A small letter that comes next is in the same word. -/
theorem any_isLower_piece {name piece : List Char} {rest : List (List Char)}
    (h : pieces name = piece :: rest) :
    name.head?.any Char.isLower = piece.head?.any Char.isLower := by
  cases name with
  | nil => simp_all [pieces, List.splitOnP_nil]
  | cons c name =>
    by_cases hc : c.isAlphanum = true
    · obtain ⟨piece', rest', -, hcons⟩ := pieces_cons_of_alphanum hc name
      obtain ⟨rfl, -⟩ := List.cons.inj (h.symm.trans hcons)
      rfl
    · -- what is no letter is no small letter
      have hlower : c.isLower = false := eq_false_of_ne_true fun hlower =>
        hc (isAlphanum_of_isAlpha (isAlpha_iff.mpr (.inr hlower)))
      obtain ⟨rfl, -⟩ :=
        List.cons.inj (h.symm.trans (pieces_cons_of_separator (eq_false_of_ne_true hc) name))
      simpa using hlower

section Scan

variable {position : WordPosition} {c : Char} {name : List Char}

theorem camelFrom_cons_of_separator (hascii : isAscii c = true) (hc : c.isAlphanum = false) :
    camelFrom position (c :: name)
      = camelFrom (if position = .opening then .opening else .start) name := by
  simp [camelFrom, isAlphanumeric_of_isAscii hascii, hc]

/-- The scan looks one character ahead in the name, which comes to looking ahead in the word. -/
theorem inside_eq_later (hascii : isAscii c = true) (h : IsAscii name) {piece : List Char}
    {rest : List (List Char)} (hpieces : pieces name = piece :: rest) :
    (if isUppercase c && !startsLowercase name then lowercase c else [c])
      = [later c piece.head?] := by
  rw [isUppercase_of_isAscii hascii, lowercase_of_isAscii hascii, startsLowercase_eq h,
    any_isLower_piece hpieces]
  unfold later
  split_ifs <;> simp_all

/-- Inside a word, the rest of the word is changed, and then every word to come; behind a separator,
every word to come is. -/
theorem camelFrom_inside_and_start (h : IsAscii name) :
    (∀ piece rest, pieces name = piece :: rest →
        camelFrom .inside name = laterOf piece ++ rest.flatMap (inWord Char.toUpper))
      ∧ camelFrom .start name = (pieces name).flatMap (inWord Char.toUpper) := by
  induction name with
  | nil => simp [camelFrom, pieces, List.splitOnP_nil, laterOf, inWord]
  | cons c name ih =>
    obtain ⟨hascii, hrest⟩ := List.forall_mem_cons.mp h
    obtain ⟨hinside, hstart⟩ := ih hrest
    by_cases hc : c.isAlphanum = true
    · obtain ⟨piece, rest, htail, hcons⟩ := pieces_cons_of_alphanum hc name
      constructor
      · rintro _ _ heq
        obtain ⟨rfl, rfl⟩ := List.cons.inj (hcons.symm.trans heq)
        have hlater := inside_eq_later hascii hrest htail
        simp only [camelFrom, isAlphanumeric_of_isAscii hascii, hc, hlater, hinside piece rest htail]
        rfl
      · rw [hcons]
        simp [camelFrom, isAlphanumeric_of_isAscii hascii, hc, uppercase_of_isAscii hascii,
          hinside piece rest htail, inWord]
    · rw [Bool.not_eq_true] at hc
      rw [pieces_cons_of_separator hc, camelFrom_cons_of_separator hascii hc,
        camelFrom_cons_of_separator hascii hc]
      constructor
      · rintro _ _ heq
        obtain ⟨rfl, rfl⟩ := List.cons.inj heq
        exact hstart
      · exact hstart

/-- Empty pieces stand for no word. -/
theorem flatMap_inWord_pieces (change : Char → Char) (ps : List (List Char)) :
    (ps.filter (· ≠ [])).flatMap (inWord change) = ps.flatMap (inWord change) := by
  induction ps with
  | nil => rfl
  | cons piece rest ih => cases piece <;> simp_all [inWord]

/-- From the opening on, the scan is the change word by word. -/
theorem camelFrom_opening (h : IsAscii name) : camelFrom .opening name = joinWords (words name) := by
  induction name with
  | nil => rfl
  | cons c name ih =>
    obtain ⟨hascii, hrest⟩ := List.forall_mem_cons.mp h
    by_cases hc : c.isAlphanum = true
    · obtain ⟨piece, rest, htail, hcons⟩ := pieces_cons_of_alphanum hc name
      have hwords : words (c :: name) = (c :: piece) :: rest.filter (· ≠ []) := by
        simp [words, hcons]
      rw [hwords, joinWords, flatMap_inWord_pieces]
      simp [camelFrom, isAlphanumeric_of_isAscii hascii, hc, lowercase_of_isAscii hascii, inWord,
        (camelFrom_inside_and_start hrest).1 piece rest htail]
    · rw [Bool.not_eq_true] at hc
      rw [camelFrom_cons_of_separator hascii hc, words_cons_of_separator hc]
      exact ih hrest

end Scan

/-! ## Names in camel case -/

/-- What holds of an ASCII name in camel case. -/
structure CamelByWords (name : String) : Prop where
  /-- The words are changed one by one. -/
  eq_joinWords : Strategy.camel.transform name = String.ofList (joinWords (words name.toList))
  /-- Another name with the same words has the same key. -/
  eq_of_words : ∀ other : String, IsAscii other.toList → words other.toList = words name.toList →
    Strategy.camel.transform other = Strategy.camel.transform name
  /-- Separators may stand at either end. -/
  eq_of_ends : ∀ gap gap' : List Char, IsAscii (gap ++ gap') → IsGap gap → IsGap gap' →
    Strategy.camel.transform (String.ofList (gap ++ name.toList ++ gap'))
      = Strategy.camel.transform name
  /-- It does not matter how many separators stand between two words, or which. -/
  eq_of_gap : ∀ front gap gap' back : List Char, name.toList = front ++ gap ++ back →
    IsGap gap → gap ≠ [] → IsAscii gap' → IsGap gap' → gap' ≠ [] →
    Strategy.camel.transform (String.ofList (front ++ gap' ++ back))
      = Strategy.camel.transform name
  /-- Up to case, the key has the letters and digits of the name, in their order. -/
  letters : (Strategy.camel.transform name).toList.map Char.toLower
    = (name.toList.filter Char.isAlphanum).map Char.toLower
  /-- The key does not start with a capital. -/
  head : ∀ c, (Strategy.camel.transform name).toList.head? = some c → c.isUpper = false

theorem camel_transform_eq {name : String} (h : IsAscii name.toList) :
    Strategy.camel.transform name = String.ofList (joinWords (words name.toList)) := by
  rw [Strategy.transform, camel, camelFrom_opening h]

theorem camel_transform_congr {name other : String} (h : IsAscii name.toList)
    (hother : IsAscii other.toList) (hwords : words other.toList = words name.toList) :
    Strategy.camel.transform other = Strategy.camel.transform name := by
  rw [camel_transform_eq h, camel_transform_eq hother, hwords]

/-- Camel case depends on the words of a name only. -/
theorem camelByWords {name : String} (h : IsAscii name.toList) : CamelByWords name where
  eq_joinWords := camel_transform_eq h
  eq_of_words _ hother hwords := camel_transform_congr h hother hwords
  eq_of_ends gap gap' hascii hgap hgap' := by
    obtain ⟨hfront, hback⟩ := List.forall_mem_append.mp hascii
    apply camel_transform_congr h
    · rw [String.toList_ofList]
      exact List.forall_mem_append.mpr ⟨List.forall_mem_append.mpr ⟨hfront, h⟩, hback⟩
    · rw [String.toList_ofList, words_between_gaps hgap hgap']
  eq_of_gap front gap gap' back hname hgap hne hascii hgap' hne' := by
    apply camel_transform_congr h
    · rw [hname] at h
      rw [String.toList_ofList]
      obtain ⟨hfront, hback⟩ := List.forall_mem_append.mp h
      have hfront' := (List.forall_mem_append.mp hfront).1
      exact List.forall_mem_append.mpr ⟨List.forall_mem_append.mpr ⟨hfront', hascii⟩, hback⟩
    · rw [String.toList_ofList, hname, words_append_gap hgap hne, words_append_gap hgap' hne']
  letters := by
    rw [camel_transform_eq h, String.toList_ofList, map_toLower_joinWords, flatten_words]
  head c hc := by
    rw [camel_transform_eq h, String.toList_ofList] at hc
    refine isUpper_head?_joinWords (fun word hword => ?_) hc
    simpa using (List.mem_filter.mp hword).2

/-- Separators at both ends and in a row, a capital before a digit and one at the end of a word. -/
theorem camelByWords_method : IsAscii "__HTTPMethod--2ndID.xY".toList
    ∧ CamelByWords "__HTTPMethod--2ndID.xY"
    ∧ words "__HTTPMethod--2ndID.xY".toList
      = ["HTTPMethod".toList, "2ndID".toList, "xY".toList]
    ∧ Strategy.camel.transform "__HTTPMethod--2ndID.xY" = "httpMethod2ndidXy" := by
  have hascii : IsAscii "__HTTPMethod--2ndID.xY".toList := by simp [IsAscii, isAscii]
  exact ⟨hascii, camelByWords hascii, rfl, rfl⟩

end ConfigBinding.Naming
