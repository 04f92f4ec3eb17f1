import ConfigBinding.Value.Basic

/-!
# Equality of values

`Value.equals` is the equality that configurations are compared by: lists position by position,
maps by their keys, whatever the order of entries and comments, and numbers by the value meant, so
that a NaN differs from itself. `Value.identical` is equality of everything, order included; no two
values that any output tells apart are identical.
-/

namespace ConfigBinding

/-- Whether two maps from keys to texts have the same keys with the same texts. -/
def sameComments (a b : List (String × String)) : Bool :=
  a.length = b.length && a.all fun p => Keyed.get? b p.1 = some p.2

mutual

/-- Equality of the values meant. -/
def Value.equals : Value → Value → Bool
  | .null, .null => true
  | .bool a, .bool b => a = b
  | .number a, .number b => a.equals b
  | .string a, .string b => a = b
  | .list a, .list b => listEquals a b
  | .config ⟨a, c⟩, .config ⟨b, d⟩ =>
    a.length = b.length && entriesFound a b && sameComments c d
  | .dateTime a, .dateTime b => a = b
  | .bigInt a, .bigInt b => a = b
  | _, _ => false

/-- Equality position by position. -/
def listEquals : List Value → List Value → Bool
  | [], [] => true
  | a :: as, b :: bs => a.equals b && listEquals as bs
  | _, _ => false

/-- Whether every entry of the first map is found equal in the second. -/
def entriesFound : List (String × Value) → List (String × Value) → Bool
  | [], _ => true
  | (k, v) :: rest, other =>
    (match Keyed.get? other k with
      | some w => v.equals w
      | none => false)
    && entriesFound rest other

end

/-- Equality of maps: the same keys with equal values, and the same comments. -/
def Tree.equals (a b : Tree) : Bool := (Value.config a).equals (.config b)

mutual

/-- Equality in every respect. -/
def Value.identical : Value → Value → Bool
  | .null, .null => true
  | .bool a, .bool b => a = b
  | .number a, .number b => a = b
  | .string a, .string b => a = b
  | .list a, .list b => listIdentical a b
  | .config ⟨a, c⟩, .config ⟨b, d⟩ => entriesIdentical a b && c = d
  | .dateTime a, .dateTime b => a = b
  | .bigInt a, .bigInt b => a = b
  | _, _ => false

/-- Equality in every respect, position by position. -/
def listIdentical : List Value → List Value → Bool
  | [], [] => true
  | a :: as, b :: bs => a.identical b && listIdentical as bs
  | _, _ => false

/-- Equality of keys and values in every respect, position by position. -/
def entriesIdentical : List (String × Value) → List (String × Value) → Bool
  | [], [] => true
  | (k, v) :: rest, (l, w) :: other => k = l && v.identical w && entriesIdentical rest other
  | _, _ => false

end

mutual

theorem Value.eq_of_identical : ∀ {a b : Value}, a.identical b = true → a = b
  | .null, b => by cases b <;> simp [Value.identical]
  | .bool _, b => by cases b <;> simp [Value.identical]
  | .number _, b => by cases b <;> simp [Value.identical]
  | .string _, b => by cases b <;> simp [Value.identical]
  | .dateTime _, b => by cases b <;> simp [Value.identical]
  | .bigInt _, b => by cases b <;> simp [Value.identical]
  | .list as, b => by
    cases b <;> simp [Value.identical]
    exact listIdentical_eq
  | .config ⟨es, cs⟩, b => by
    cases b with
    | config t =>
      obtain ⟨fs, ds⟩ := t
      simp only [Value.identical, Bool.and_eq_true, decide_eq_true_eq]
      rintro ⟨h, rfl⟩
      rw [entriesIdentical_eq h]
    | _ => simp [Value.identical]

theorem listIdentical_eq : ∀ {as bs : List Value}, listIdentical as bs = true → as = bs
  | [], bs => by cases bs <;> simp [listIdentical]
  | a :: as, bs => by
    cases bs with
    | nil => simp [listIdentical]
    | cons b bs =>
      simp only [listIdentical, Bool.and_eq_true]
      rintro ⟨h, hs⟩
      rw [Value.eq_of_identical h, listIdentical_eq hs]

theorem entriesIdentical_eq :
    ∀ {as bs : List (String × Value)}, entriesIdentical as bs = true → as = bs
  | [], bs => by cases bs <;> simp [entriesIdentical]
  | (k, v) :: as, bs => by
    cases bs with
    | nil => simp [entriesIdentical]
    | cons b bs =>
      obtain ⟨l, w⟩ := b
      simp only [entriesIdentical, Bool.and_eq_true, decide_eq_true_eq]
      rintro ⟨⟨rfl, h⟩, hs⟩
      rw [Value.eq_of_identical h, entriesIdentical_eq hs]

end

mutual

theorem Value.identical_self : ∀ a : Value, a.identical a = true
  | .null => by simp [Value.identical]
  | .bool _ => by simp [Value.identical]
  | .number _ => by simp [Value.identical]
  | .string _ => by simp [Value.identical]
  | .dateTime _ => by simp [Value.identical]
  | .bigInt _ => by simp [Value.identical]
  | .list as => by simp [Value.identical, listIdentical_self as]
  | .config ⟨es, cs⟩ => by simp [Value.identical, entriesIdentical_self es]

theorem listIdentical_self : ∀ as : List Value, listIdentical as as = true
  | [] => rfl
  | a :: as => by simp [listIdentical, Value.identical_self a, listIdentical_self as]

theorem entriesIdentical_self : ∀ as : List (String × Value), entriesIdentical as as = true
  | [] => rfl
  | (_, v) :: as => by
    simp [entriesIdentical, Value.identical_self v, entriesIdentical_self as]

end

instance : DecidableEq Value := fun a b =>
  if h : a.identical b = true then .isTrue (Value.eq_of_identical h)
  else .isFalse fun e => h (e ▸ Value.identical_self a)

end ConfigBinding
