import ConfigBinding.Proofs.Naming.Camel
import Mathlib.Data.List.TakeWhile

/-!
# Words set apart by a separator

Snake case and kebab case write a name in small letters, with a separator before each run of
capitals that does not start the name (`Naming.innerRuns`). Of what it has read, the scan behind
both knows only whether a capital would join it: at the start of the name, and behind a capital.
For ASCII names its steps are the rules of `Naming.SetApart`, and what holds of the key is proved
by induction on these rules.

The number of separators depends on what has been read. The runs that are still to be set apart are
those of the rest of the name; where a capital would join what has been read, the capitals that lead
the rest do not count (`SetApart.count_eq`). Where the separators stand is seen from a name that is
cut in two: the key is cut at the same place, with a separator exactly where a run begins
(`separateWords_append`).
-/

namespace ConfigBinding.Naming

open Text.Case

/-! ## Runs of capitals -/

/-- The maximal runs of capitals in a name. -/
def capitalRuns (name : List Char) : List (List Char) :=
  (name.splitOnP fun c => !c.isUpper).filter (· ≠ [])

/-- The maximal runs of capitals that do not start the name. -/
def innerRuns (name : List Char) : List (List Char) :=
  capitalRuns (name.dropWhile Char.isUpper)

/-- Between two parts of a name a run of capitals begins, which the name does not start with. -/
def runBegins (front back : List Char) : Bool :=
  front.getLast?.any (!·.isUpper) && back.head?.any Char.isUpper

section Runs

variable {c : Char}

@[simp] theorem capitalRuns_nil : capitalRuns [] = [] := by
  simp [capitalRuns, List.splitOnP_nil]

theorem capitalRuns_cons_of_not_isUpper (hc : c.isUpper = false) (name : List Char) :
    capitalRuns (c :: name) = capitalRuns name := by
  simp [capitalRuns, List.splitOnP_cons_eq_if_modifyHead, hc]

/-- A run takes in all the capitals behind its first. -/
theorem capitalRuns_cons_of_isUpper (hc : c.isUpper = true) (name : List Char) :
    capitalRuns (c :: name)
      = (c :: name.takeWhile Char.isUpper) :: capitalRuns (name.dropWhile Char.isUpper) := by
  have hrun : ∀ x ∈ c :: name.takeWhile Char.isUpper, (!x.isUpper) = false := by
    simp only [List.forall_mem_cons, Bool.not_eq_false']
    exact ⟨hc, fun x hx => List.mem_takeWhile_imp hx⟩
  have hname : c :: name = (c :: name.takeWhile Char.isUpper) ++ name.dropWhile Char.isUpper := by
    rw [List.cons_append, List.takeWhile_append_dropWhile]
  rw [hname]
  cases hback : name.dropWhile Char.isUpper with
  | nil => simp [capitalRuns, List.splitOnP_eq_singleton hrun, List.splitOnP_nil]
  | cons d back =>
    -- the run ends at the first character that is no capital
    have hd : d.isUpper = false := by
      have hhead := List.head?_dropWhile_not Char.isUpper name
      simpa [hback] using hhead
    rw [capitalRuns_cons_of_not_isUpper hd, capitalRuns,
      List.splitOnP_append_cons _ _ (by simp [hd]), List.splitOnP_eq_singleton hrun]
    simp [capitalRuns]

end Runs

/-! ## Capitals and small letters -/

theorem isAscii_of_isAlpha {c : Char} (h : c.isAlpha = true) : isAscii c = true := by
  rw [isAlpha_iff, isUpper_iff, isLower_iff] at h
  rw [isAscii, decide_eq_true_eq]
  omega

theorem isUppercase_toLower {c : Char} (hc : c.isUpper = true) : isUppercase c.toLower = false := by
  have halpha : c.toLower.isAlpha = true := (isAlpha_toLower c).trans (isAlpha_of_isUpper hc)
  rw [isUppercase_of_isAscii (isAscii_of_isAlpha halpha), isUpper_toLower]

theorem isUpper_of_not_isUppercase {c : Char} (h : isUppercase c = false) : c.isUpper = false := by
  by_contra hc
  rw [Bool.not_eq_false] at hc
  rw [isUppercase_of_isAscii (isAscii_of_isAlpha (isAlpha_of_isUpper hc)), hc] at h
  cases h

/-- A character that is no capital stays as it is in small letters. -/
theorem toLower_of_not_isUppercase {c : Char} (hc : isUppercase c = false) : c.toLower = c :=
  toLower_of_not_isUpper (isUpper_of_not_isUppercase hc)

/-- A capital is not mistaken for a separator, in either case. -/
theorem ne_separator {c separator : Char} (hc : c.isUpper = true)
    (hseparator : separator.isAlpha = false) : c ≠ separator ∧ c.toLower ≠ separator := by
  constructor
  · rintro rfl
    exact absurd (isAlpha_of_isUpper hc) (Bool.eq_false_iff.mp hseparator)
  · rintro rfl
    rw [isAlpha_toLower] at hseparator
    exact absurd (isAlpha_of_isUpper hc) (Bool.eq_false_iff.mp hseparator)

/-! ## The scan -/

/-- Whether a capital behind `name` would join what has been read. -/
def joinsBehind (joined : Bool) (name : List Char) : Bool :=
  name.getLast?.elim joined Char.isUpper

theorem joinsBehind_cons (joined : Bool) (c : Char) (name : List Char) :
    joinsBehind joined (c :: name) = joinsBehind c.isUpper name := by
  cases hlast : name.getLast? <;> simp [joinsBehind, List.getLast?_cons, hlast]

/-- How a name is read from left to right, and what is written. `joined` says that a capital would
join what has been read. -/
inductive SetApart (separator : Char) : Bool → List Char → List Char → Prop where
  /-- Nothing is left to read. -/
  | nil {joined : Bool} : SetApart separator joined [] []
  /-- A capital that begins a run is set apart. -/
  | begins {c : Char} {name key : List Char} (hc : c.isUpper = true)
      (rest : SetApart separator true name key) :
      SetApart separator false (c :: name) (separator :: c.toLower :: key)
  /-- A capital that starts the name, or stands behind another, is not. -/
  | joins {c : Char} {name key : List Char} (hc : c.isUpper = true)
      (rest : SetApart separator true name key) :
      SetApart separator true (c :: name) (c.toLower :: key)
  /-- Any other character stays, and the next capital begins a run. -/
  | stays {joined : Bool} {c : Char} {name key : List Char} (hc : isUppercase c = false)
      (rest : SetApart separator false name key) :
      SetApart separator joined (c :: name) (c :: key)

theorem setApart_separateFrom {name : List Char} (h : IsAscii name) (separator : Char)
    (joined : Bool) : SetApart separator joined name (separateFrom separator joined name) := by
  induction name generalizing joined with
  | nil => exact .nil
  | cons c name ih =>
    obtain ⟨hascii, hrest⟩ := List.forall_mem_cons.mp h
    by_cases hc : isUppercase c = true
    · have hupper : c.isUpper = true := by rwa [← isUppercase_of_isAscii hascii]
      simp only [separateFrom, hc, lowercase_of_isAscii hascii, if_true]
      cases joined with
      | false => exact .begins hupper (ih hrest true)
      | true => exact .joins hupper (ih hrest true)
    · rw [Bool.not_eq_true] at hc
      simp only [separateFrom, hc, Bool.false_eq_true, if_false]
      exact .stays hc (ih hrest false)

theorem setApart_separateWords {name : List Char} (h : IsAscii name) (separator : Char) :
    SetApart separator true name (separateWords separator name) :=
  setApart_separateFrom h separator true

/-- A name without capitals is its own key. -/
theorem separateFrom_eq_self {name : List Char} (h : ∀ c ∈ name, isUppercase c = false)
    (separator : Char) (joined : Bool) : separateFrom separator joined name = name := by
  induction name generalizing joined with
  | nil => rfl
  | cons c name ih =>
    obtain ⟨hc, hrest⟩ := List.forall_mem_cons.mp h
    simp only [separateFrom, hc, Bool.false_eq_true, if_false, ih hrest]

namespace SetApart

variable {separator : Char} {joined : Bool} {name key : List Char}

/-- One name has one key. -/
theorem unique {other : List Char} (h : SetApart separator joined name key)
    (hother : SetApart separator joined name other) : key = other := by
  induction h generalizing other with
  | nil => cases hother; rfl
  | begins hc rest ih =>
    cases hother with
    | begins _ rest' => rw [ih rest']
    | stays hc' _ => simp [isUpper_of_not_isUppercase hc'] at hc
  | joins hc rest ih =>
    cases hother with
    | joins _ rest' => rw [ih rest']
    | stays hc' _ => simp [isUpper_of_not_isUppercase hc'] at hc
  | stays hc rest ih =>
    cases hother with
    | begins hc' _ => simp [isUpper_of_not_isUppercase hc] at hc'
    | joins hc' _ => simp [isUpper_of_not_isUppercase hc] at hc'
    | stays _ rest' => rw [ih rest']

theorem no_capital (h : SetApart separator joined name key)
    (hseparator : isUppercase separator = false) : ∀ c ∈ key, isUppercase c = false := by
  induction h with
  | nil => simp
  | begins hc rest ih =>
    exact List.forall_mem_cons.mpr
      ⟨hseparator, List.forall_mem_cons.mpr ⟨isUppercase_toLower hc, ih⟩⟩
  | joins hc rest ih => exact List.forall_mem_cons.mpr ⟨isUppercase_toLower hc, ih⟩
  | stays hc rest ih => exact List.forall_mem_cons.mpr ⟨hc, ih⟩

/-- The key is the name in small letters, with other characters in between at most. -/
theorem sublist (h : SetApart separator joined name key) :
    (name.map Char.toLower).Sublist key := by
  induction h with
  | nil => exact List.Sublist.slnil
  | begins hc rest ih => exact (ih.cons_cons _).cons _
  | joins hc rest ih => exact ih.cons_cons _
  | stays hc rest ih =>
    rw [List.map_cons, toLower_of_not_isUppercase hc]
    exact ih.cons_cons _

/-- But for separators, the key is the name in small letters. -/
theorem filter_eq (h : SetApart separator joined name key) :
    key.filter (· ≠ separator) = (name.map Char.toLower).filter (· ≠ separator) := by
  induction h with
  | nil => rfl
  | begins hc rest ih =>
    rw [List.filter_cons_of_neg (by simp), List.map_cons, List.filter_cons, List.filter_cons, ih]
  | joins hc rest ih => rw [List.map_cons, List.filter_cons, List.filter_cons, ih]
  | stays hc rest ih =>
    rw [List.map_cons, toLower_of_not_isUppercase hc, List.filter_cons, List.filter_cons, ih]

/-- A separator is added for each run of capitals that does not join what has been read. -/
theorem count_eq (h : SetApart separator joined name key) (hseparator : separator.isAlpha = false) :
    key.count separator = name.count separator
      + (capitalRuns (if joined then name.dropWhile Char.isUpper else name)).length := by
  induction h with
  | nil => simp
  | begins hc rest ih =>
    obtain ⟨hne, hne'⟩ := ne_separator hc hseparator
    rw [List.count_cons_self, List.count_cons_of_ne hne', ih, List.count_cons_of_ne hne]
    simp [capitalRuns_cons_of_isUpper hc, Nat.add_assoc]
  | joins hc rest ih =>
    obtain ⟨hne, hne'⟩ := ne_separator hc hseparator
    rw [List.count_cons_of_ne hne', ih, List.count_cons_of_ne hne]
    simp [hc]
  | stays hc rest ih =>
    have hupper := isUpper_of_not_isUppercase hc
    rw [List.count_cons, ih, List.count_cons]
    simp [hupper, capitalRuns_cons_of_not_isUpper hupper, Nat.add_right_comm]

/-- Another separator only takes the place of the first, as long as that one is not in the name. -/
theorem replace (h : SetApart separator joined name key) (hseparator : separator.isAlpha = false)
    (hname : separator ∉ name) (other : Char) :
    SetApart other joined name (key.map fun c => if c = separator then other else c) := by
  induction h with
  | nil => exact .nil
  | begins hc rest ih =>
    obtain ⟨-, hne⟩ := ne_separator hc hseparator
    simpa [hne] using SetApart.begins hc (ih (List.not_mem_of_not_mem_cons hname))
  | joins hc rest ih =>
    obtain ⟨-, hne⟩ := ne_separator hc hseparator
    simpa [hne] using SetApart.joins hc (ih (List.not_mem_of_not_mem_cons hname))
  | @stays _ c _ _ hc rest ih =>
    have hne : separator ≠ c := List.ne_of_not_mem_cons hname
    simpa [hne.symm] using SetApart.stays hc (ih (List.not_mem_of_not_mem_cons hname))

/-- Of what has been read, only whether it would be joined counts for the rest. -/
theorem append {back back' : List Char} (h : SetApart separator joined name key)
    (hback : SetApart separator (joinsBehind joined name) back back') :
    SetApart separator joined (name ++ back) (key ++ back') := by
  induction h with
  | nil => exact hback
  | begins hc rest ih => exact .begins hc (ih (by rwa [joinsBehind_cons, hc] at hback))
  | joins hc rest ih => exact .joins hc (ih (by rwa [joinsBehind_cons, hc] at hback))
  | stays hc rest ih =>
    exact .stays hc (ih (by rwa [joinsBehind_cons, isUpper_of_not_isUppercase hc] at hback))

/-- A capital that comes first takes a separator unless it is joined. -/
theorem begin (h : SetApart separator true name key) :
    SetApart separator false name
      ((if name.head?.any Char.isUpper then [separator] else []) ++ key) := by
  cases h with
  | nil => exact .nil
  | joins hc rest => simpa [hc] using SetApart.begins hc rest
  | stays hc rest => simpa [isUpper_of_not_isUppercase hc] using SetApart.stays hc rest

end SetApart

section Names

variable {name front back : List Char} {separator : Char}

/-- The key of a name that is cut in two. -/
theorem separateWords_append (h : IsAscii (front ++ back)) :
    separateWords separator (front ++ back)
      = separateWords separator front
        ++ ((if runBegins front back then [separator] else [])
          ++ separateWords separator back) := by
  obtain ⟨hfront, hback⟩ := List.forall_mem_append.mp h
  have hkey := setApart_separateWords hback separator
  refine (setApart_separateWords h separator).unique
    ((setApart_separateWords hfront separator).append ?_)
  cases hlast : front.getLast? with
  | none => simpa [joinsBehind, runBegins, hlast] using hkey
  | some d =>
    cases hd : d.isUpper with
    | true => simpa [joinsBehind, runBegins, hlast, hd] using hkey
    | false => simpa [joinsBehind, runBegins, hlast, hd] using hkey.begin

/-- The key of a name with another separator. -/
theorem separateWords_replace (h : IsAscii name) (hseparator : separator.isAlpha = false)
    (hname : separator ∉ name) (other : Char) :
    separateWords other name
      = (separateWords separator name).map fun c => if c = separator then other else c :=
  (setApart_separateWords h other).unique
    ((setApart_separateWords h separator).replace hseparator hname other)

end Names

/-! ## Names in snake case and in kebab case -/

/-- What holds of the key that a strategy makes of an ASCII name by setting words apart. -/
structure SetsApart (strategy : Strategy) (separator : Char) (name : String) : Prop where
  /-- The key has no capital. -/
  no_capital : ∀ c ∈ (strategy.transform name).toList, isUppercase c = false
  /-- Nothing of the name is lost but the case of its letters, and nothing is moved. -/
  keeps : (name.toList.map Char.toLower).Sublist (strategy.transform name).toList
  /-- Nothing but separators is added. -/
  letters : (strategy.transform name).toList.filter (· ≠ separator)
    = (name.toList.map Char.toLower).filter (· ≠ separator)
  /-- A separator is added for each run of capitals that does not start the name. -/
  separators : (strategy.transform name).toList.count separator
    = name.toList.count separator + (innerRuns name.toList).length
  /-- A name that is cut in two has the keys of its parts, and a separator between them where a run
  of capitals begins. -/
  cut : ∀ front back : String, name = front ++ back →
    strategy.transform name = strategy.transform front
      ++ (if runBegins front.toList back.toList then String.singleton separator else "")
      ++ strategy.transform back
  /-- A key is its own key. -/
  idempotent : strategy.transform (strategy.transform name) = strategy.transform name

theorem setsApart_of_separateWords {strategy : Strategy} {separator : Char}
    (hstrategy : ∀ name, strategy.transform name
      = String.ofList (separateWords separator name.toList))
    (hascii : isAscii separator = true) (hseparator : separator.isAlpha = false) {name : String}
    (h : IsAscii name.toList) : SetsApart strategy separator name := by
  have hupper : isUppercase separator = false := by
    rw [isUppercase_of_isAscii hascii]
    exact (Bool.or_eq_false_iff.mp hseparator).1
  have hkey : (strategy.transform name).toList = separateWords separator name.toList := by
    rw [hstrategy, String.toList_ofList]
  have hsteps := setApart_separateWords h separator
  rw [← hkey] at hsteps
  exact {
    no_capital := hsteps.no_capital hupper
    keeps := hsteps.sublist
    letters := hsteps.filter_eq
    separators := hsteps.count_eq hseparator
    cut := by
      rintro front back rfl
      rw [String.toList_append] at h
      apply String.toList_injective
      simp only [hstrategy, String.toList_append, String.toList_ofList,
        separateWords_append h]
      split_ifs <;> simp
    idempotent := by
      rw [hstrategy (strategy.transform name), separateWords,
        separateFrom_eq_self (hsteps.no_capital hupper), String.ofList_toList] }

/-- What holds of an ASCII name in snake case and in kebab case. -/
structure SeparatedWords (name : String) : Prop where
  snake : SetsApart .snake '_' name
  kebab : SetsApart .kebab '-' name
  /-- But for the separator, the keys are the same. A name may have the separator of kebab case
  itself, which stands in both keys. -/
  kebab_eq : '_' ∉ name.toList → Strategy.kebab.transform name
    = (Strategy.snake.transform name).map fun c => if c = '_' then '-' else c

/-- Snake case and kebab case put a separator before each run of capitals that does not start the
name, and keep the name but for the case of its letters. -/
theorem separatedWords {name : String} (h : IsAscii name.toList) : SeparatedWords name where
  snake := setsApart_of_separateWords (fun _ => rfl) rfl rfl h
  kebab := setsApart_of_separateWords (fun _ => rfl) rfl rfl h
  kebab_eq hname := by
    apply String.toList_injective
    rw [String.toList_map]
    simp only [Strategy.transform, String.toList_ofList]
    exact separateWords_replace h rfl hname '-'

/-- Capitals at the start, behind a separator, before a digit and at the end. -/
theorem separatedWords_request : IsAscii "HTTPGet-URL2iD".toList
    ∧ SeparatedWords "HTTPGet-URL2iD"
    ∧ innerRuns "HTTPGet-URL2iD".toList = ["URL".toList, "D".toList]
    ∧ Strategy.snake.transform "HTTPGet-URL2iD" = "httpget-_url2i_d"
    ∧ Strategy.kebab.transform "HTTPGet-URL2iD" = "httpget--url2i-d" := by
  have hascii : IsAscii "HTTPGet-URL2iD".toList := by simp [IsAscii, isAscii]
  exact ⟨hascii, separatedWords hascii, rfl, rfl, rfl⟩

end ConfigBinding.Naming
