import ConfigBinding.Proofs.Keyed
import ConfigBinding.Proofs.Sequence
import ConfigBinding.Time.Rfc3339
import ConfigBinding.Tree.Basic
import Mathlib.Algebra.Group.Int.Defs

/-!
# Values within values, and their normal form

A value stands within another at any depth (`Value.Within`), and what is said of the maps of a value
is said of all maps within it: in a well-formed value no key occurs twice among the entries of a
map, nor among its comments (`Value.WellFormed`).

The normal form of a value is what a self-describing reader can tell of it (`Value.normal`). It has
no comments and no date-times, and its big integers lie beyond 64 bits but within 128. Lists keep
their order, and maps keep their keys and the order of them.
-/

namespace ConfigBinding

namespace Value

/-- The value occurs in another one, as it is or at any depth. -/
inductive Within (w : Value) : Value → Prop where
  | self : Within w w
  | item {items : List Value} {v : Value} (hmem : v ∈ items) (h : Within w v) :
    Within w (.list items)
  | entry {tree : Tree} {p : String × Value} (hmem : p ∈ tree.entries) (h : Within w p.2) :
    Within w (.config tree)

/-- No map within the value has a key twice, among its entries or among its comments. -/
def WellFormed (v : Value) : Prop :=
  ∀ tree, (Value.config tree).Within v →
    Keyed.Distinct tree.entries ∧ Keyed.Distinct tree.comments

variable {v w : Value}

theorem within_bigInt_iff {n : Int} : w.Within (.bigInt n) ↔ w = .bigInt n := by
  constructor
  · rintro ⟨⟩
    rfl
  · rintro rfl
    exact .self

theorem within_list_iff {items : List Value} :
    w.Within (.list items) ↔ w = .list items ∨ ∃ v ∈ items, w.Within v := by
  constructor
  · rintro (_ | ⟨hmem, h⟩)
    · exact .inl rfl
    · exact .inr ⟨_, hmem, h⟩
  · rintro (rfl | ⟨v, hmem, h⟩)
    · exact .self
    · exact .item hmem h

theorem within_config_iff {tree : Tree} :
    w.Within (.config tree) ↔ w = .config tree ∨ ∃ p ∈ tree.entries, w.Within p.2 := by
  constructor
  · rintro (_ | _ | ⟨hmem, h⟩)
    · exact .inl rfl
    · exact .inr ⟨_, hmem, h⟩
  · rintro (rfl | ⟨p, hmem, h⟩)
    · exact .self
    · exact .entry hmem h

theorem WellFormed.item {items : List Value} (h : (Value.list items).WellFormed)
    (hmem : v ∈ items) : v.WellFormed :=
  fun tree hwithin => h tree (.item hmem hwithin)

theorem WellFormed.entry {tree : Tree} (h : (Value.config tree).WellFormed) {p : String × Value}
    (hmem : p ∈ tree.entries) : p.2.WellFormed :=
  fun tree' hwithin => h tree' (.entry hmem hwithin)

theorem WellFormed.distinct {tree : Tree} (h : (Value.config tree).WellFormed) :
    Keyed.Distinct tree.entries :=
  (h tree .self).1

theorem wellFormed_list_iff {items : List Value} :
    (Value.list items).WellFormed ↔ ∀ v ∈ items, v.WellFormed := by
  refine ⟨fun h v hmem => h.item hmem, fun h tree hwithin => ?_⟩
  rcases within_list_iff.mp hwithin with heq | ⟨v, hmem, hwithin⟩
  · cases heq
  · exact h v hmem tree hwithin

theorem wellFormed_config_iff {tree : Tree} :
    (Value.config tree).WellFormed ↔ (Keyed.Distinct tree.entries ∧ Keyed.Distinct tree.comments)
      ∧ ∀ p ∈ tree.entries, p.2.WellFormed := by
  refine ⟨fun h => ⟨h tree .self, fun p hmem => h.entry hmem⟩, fun ⟨hself, h⟩ tree' hwithin => ?_⟩
  rcases within_config_iff.mp hwithin with heq | ⟨p, hmem, hwithin⟩
  · rw [Value.config.inj heq]
    exact hself
  · exact h p hmem tree' hwithin

theorem WellFormed.insert {tree : Tree} (h : (Value.config tree).WellFormed) (key : String)
    (hv : v.WellFormed) : (Value.config (tree.insert key v)).WellFormed := by
  obtain ⟨⟨hentries, hcomments⟩, hvalues⟩ := wellFormed_config_iff.mp h
  refine wellFormed_config_iff.mpr ⟨⟨Keyed.distinct_insert hentries key v, hcomments⟩, fun p hp => ?_⟩
  rcases Keyed.mem_insert hp with rfl | hp
  · exact hv
  · exact hvalues p hp

end Value

/-- A 64-bit integer is the value of the integer that it is. -/
theorem Value.ofInt_toInt (n : Int64) : Value.ofInt n.toInt = .number (.integer n) := by
  rw [Value.ofInt, if_pos ⟨n.le_toInt, n.toInt_lt⟩, Int64.ofInt_toInt]

/-! ## The normal form -/

mutual

/-- The value without comments, with date-times as their RFC 3339 texts, and with big integers as
numbers where 64 bits have them and as their decimal texts where 128 bits do not. -/
def Value.normal : Value → Value
  | .null => .null
  | .bool b => .bool b
  | .number n => .number n
  | .string s => .string s
  | .list items => .list (normalItems items)
  | .config ⟨entries, _⟩ => .config ⟨normalEntries entries, []⟩
  | .dateTime t => .string t.toRfc3339
  | .bigInt n => if -2 ^ 127 ≤ n ∧ n < 2 ^ 128 then .ofInt n else .string (toString n)

/-- The normal forms of the items of a list. -/
def normalItems : List Value → List Value
  | [] => []
  | v :: rest => v.normal :: normalItems rest

/-- The entries of a map with the normal forms of their values. -/
def normalEntries : List (String × Value) → List (String × Value)
  | [] => []
  | (k, v) :: rest => (k, v.normal) :: normalEntries rest

end

theorem normalItems_eq_map (items : List Value) : normalItems items = items.map Value.normal := by
  induction items with
  | nil => rfl
  | cons v rest ih => rw [normalItems, ih, List.map_cons]

theorem normalEntries_eq_mapValues (entries : List (String × Value)) :
    normalEntries entries = Keyed.mapValues Value.normal entries := by
  induction entries with
  | nil => rfl
  | cons p rest ih =>
    rw [normalEntries, ih]
    rfl

end ConfigBinding
