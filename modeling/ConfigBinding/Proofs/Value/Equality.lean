import ConfigBinding.Proofs.Value.Leaves
import ConfigBinding.Tree.Basic
import ConfigBinding.Value.Equality
import Mathlib.Data.List.Perm.Subperm
import Mathlib.Logic.Relation

/-!
# Equality of values as a relation

`Value.equals` compares two maps from one side: they are of one size, and every entry of the first is
found equal in the second. Where no key occurs twice this comes to something that has no sides, since
as many distinct keys on the right leave no room for a key that is not on the left.
`Value.MeansSame` says it without counting, one case for each constructor, and the two agree on
well-formed values (`Value.equals_iff`).

Everything else is said of `MeansSame`. It is symmetric and transitive. It is reflexive but for NaNs:
a value is equal to itself if there is none within it (`Value.meansSame_self_iff`). And it takes no
notice of the order of entries and comments of any map at any depth (`Value.meansSame_reorders_iff`).
-/

namespace ConfigBinding

/-! ## Numbers -/

namespace Numeric.Binary

variable {f : Format} {x y z : Binary f}

theorem equals_iff : x.equals y = true ↔ (x.isNaN = false ∧ y.isNaN = false)
    ∧ (x = y ∨ x.bits % f.signBit = 0 ∧ y.bits % f.signBit = 0) := by
  simp [equals]

theorem equals_symm (h : x.equals y = true) : y.equals x = true := by
  obtain ⟨⟨hx, hy⟩, hsame⟩ := equals_iff.mp h
  exact equals_iff.mpr ⟨⟨hy, hx⟩, hsame.imp Eq.symm And.symm⟩

theorem equals_trans (hxy : x.equals y = true) (hyz : y.equals z = true) : x.equals z = true := by
  obtain ⟨⟨hx, -⟩, hsame⟩ := equals_iff.mp hxy
  obtain ⟨⟨-, hz⟩, hsame'⟩ := equals_iff.mp hyz
  rcases hsame with rfl | ⟨hzero, -⟩
  · exact hyz
  · rcases hsame' with rfl | ⟨-, hzero'⟩
    · exact hxy
    · exact equals_iff.mpr ⟨⟨hx, hz⟩, .inr ⟨hzero, hzero'⟩⟩

theorem equals_self_iff : x.equals x = true ↔ x.isNaN = false := by
  simp [equals_iff]

end Numeric.Binary

/-! ## Sides and sizes -/

namespace Keyed

variable {α : Type} {R : α → α → Prop} {a b : List (String × α)}

/-- Between keyed lists of one size with distinct keys, an inclusion of the keys is an equality. -/
theorem mem_keys_iff_of_subset (ha : Distinct a) (hsize : a.length = b.length)
    (h : ∀ key ∈ keys a, key ∈ keys b) (key : String) : key ∈ keys a ↔ key ∈ keys b := by
  have hperm : (keys a).Perm (keys b) := by
    apply (List.subperm_of_subset ha h).perm_of_length_le
    simp [keys, hsize]
  exact hperm.mem_iff

theorem length_eq_of_mem_keys_iff (ha : Distinct a) (hb : Distinct b)
    (h : ∀ key, key ∈ keys a ↔ key ∈ keys b) : a.length = b.length := by
  have hperm : (keys a).Perm (keys b) := (List.perm_ext_iff_of_nodup ha hb).mpr h
  simpa [keys] using hperm.length_eq

/-- To find every entry of one list in another of the same size is to find the same keys on both
sides. -/
theorem found_iff (ha : Distinct a) (hb : Distinct b) :
    (a.length = b.length ∧ ∀ p ∈ a, ∃ w, get? b p.1 = some w ∧ R p.2 w)
      ↔ (∀ key, key ∈ keys a ↔ key ∈ keys b)
        ∧ ∀ key v w, get? a key = some v → get? b key = some w → R v w := by
  constructor
  · rintro ⟨hsize, hfound⟩
    constructor
    · apply mem_keys_iff_of_subset ha hsize
      intro key hkey
      obtain ⟨v, hv⟩ := mem_keys_iff.mp hkey
      obtain ⟨w, hw, -⟩ := hfound _ (mem_of_get? hv)
      exact mem_keys_iff.mpr ⟨w, hw⟩
    · intro key v w hv hw
      obtain ⟨w', hw', hrel⟩ := hfound _ (mem_of_get? hv)
      obtain rfl : w' = w := Option.some.inj (hw'.symm.trans hw)
      exact hrel
  · rintro ⟨hkeys, hrel⟩
    refine ⟨length_eq_of_mem_keys_iff ha hb hkeys, fun p hp => ?_⟩
    have hv : get? a p.1 = some p.2 := get?_of_mem ha hp
    obtain ⟨w, hw⟩ := mem_keys_iff.mp ((hkeys p.1).mp (mem_keys_iff.mpr ⟨p.2, hv⟩))
    exact ⟨w, hw, hrel p.1 p.2 w hv hw⟩

/-- The same keys with the same values: the same is found under every key. -/
theorem same_iff : ((∀ key, key ∈ keys a ↔ key ∈ keys b)
      ∧ ∀ key v w, get? a key = some v → get? b key = some w → v = w)
    ↔ ∀ key, get? a key = get? b key := by
  constructor
  · rintro ⟨hkeys, hvalues⟩ key
    have hkey := hkeys key
    rw [mem_keys_iff, mem_keys_iff] at hkey
    cases ha : get? a key with
    | none => cases hb : get? b key <;> simp_all
    | some v =>
      obtain ⟨w, hw⟩ := hkey.mp ⟨v, ha⟩
      rw [hw, hvalues key v w ha hw]
  · intro h
    exact ⟨fun key => by rw [mem_keys_iff, mem_keys_iff, h], fun key v w hv hw => by simp_all⟩

end Keyed

/-- Comments are the same exactly if each key has the same. -/
theorem sameComments_iff {c d : List (String × String)} (hc : Keyed.Distinct c)
    (hd : Keyed.Distinct d) :
    sameComments c d = true ↔ ∀ key, Keyed.get? c key = Keyed.get? d key := by
  rw [← Keyed.same_iff, ← Keyed.found_iff hc hd]
  simp [sameComments]

theorem listEquals_iff {as bs : List Value} : listEquals as bs = true ↔ as.length = bs.length
    ∧ ∀ (i : Nat) (v w : Value), as[i]? = some v → bs[i]? = some w → v.equals w = true := by
  induction as generalizing bs with
  | nil => cases bs <;> simp [listEquals]
  | cons a as ih =>
    cases bs with
    | nil => simp [listEquals]
    | cons b bs =>
      rw [listEquals, Bool.and_eq_true, ih, List.length_cons, List.length_cons]
      constructor
      · rintro ⟨hhead, hsize, hitems⟩
        refine ⟨by omega, fun i v w hv hw => ?_⟩
        cases i with
        | zero => simp_all
        | succ i => exact hitems i v w hv hw
      · rintro ⟨hsize, hitems⟩
        exact ⟨hitems 0 a b rfl rfl, by omega, fun i v w => hitems (i + 1) v w⟩

theorem entriesFound_iff {a b : List (String × Value)} : entriesFound a b = true
    ↔ ∀ p ∈ a, ∃ w, Keyed.get? b p.1 = some w ∧ p.2.equals w = true := by
  induction a with
  | nil => simp [entriesFound]
  | cons p rest ih =>
    obtain ⟨k, v⟩ := p
    rw [entriesFound, Bool.and_eq_true, ih, List.forall_mem_cons]
    cases Keyed.get? b k <;> simp

namespace Value

variable {a b c u v w : Value}

/-- What the equality of two values comes to, from one constructor to the next. -/
inductive MeansSame : Value → Value → Prop where
  | null : MeansSame .null .null
  | bool (b : Bool) : MeansSame (.bool b) (.bool b)
  | integer (n : Int64) : MeansSame (.number (.integer n)) (.number (.integer n))
  | float {x y : Numeric.Binary64} (h : x.equals y = true) :
    MeansSame (.number (.float x)) (.number (.float y))
  | string (s : String) : MeansSame (.string s) (.string s)
  /-- Lists are compared position by position. -/
  | list {as bs : List Value} (length : as.length = bs.length)
    (items : ∀ (i : Nat) (v w : Value), as[i]? = some v → bs[i]? = some w → MeansSame v w) :
    MeansSame (.list as) (.list bs)
  /-- Maps are compared key by key, and so are their comments. -/
  | config {t u : Tree} (keys : ∀ key, key ∈ t.keys ↔ key ∈ u.keys)
    (values : ∀ key v w, t.get? key = some v → u.get? key = some w → MeansSame v w)
    (comments : ∀ key, t.comment? key = u.comment? key) : MeansSame (.config t) (.config u)
  | dateTime (t : Time.Instant) : MeansSame (.dateTime t) (.dateTime t)
  | bigInt (n : Int) : MeansSame (.bigInt n) (.bigInt n)

/-! ## The relation -/

theorem MeansSame.symm (h : MeansSame a b) : MeansSame b a := by
  induction h with
  | float h => exact .float (Numeric.Binary.equals_symm h)
  | list length _ ih => exact .list length.symm fun i v w hv hw => ih i w v hw hv
  | config keys _ comments ih =>
    exact .config (fun key => (keys key).symm) (fun key v w hv hw => ih key w v hw hv)
      fun key => (comments key).symm
  | _ => constructor

theorem MeansSame.trans (hab : MeansSame a b) (hbc : MeansSame b c) : MeansSame a c := by
  induction hab generalizing c with
  | float h =>
    cases hbc with
    | float h' => exact .float (Numeric.Binary.equals_trans h h')
  | @list as bs length _ ih =>
    cases hbc with
    | @list _ cs length' items' =>
      refine .list (length.trans length') fun i v x hv hx => ?_
      obtain ⟨w, hw⟩ : ∃ w, bs[i]? = some w := by
        obtain ⟨hlt, -⟩ := List.getElem?_eq_some_iff.mp hv
        exact ⟨_, List.getElem?_eq_getElem (length ▸ hlt)⟩
      exact ih i v w hv hw (items' i w x hw hx)
  | @config t u keys _ comments ih =>
    cases hbc with
    | @config _ u' keys' values' comments' =>
      refine .config (fun key => (keys key).trans (keys' key)) (fun key v x hv hx => ?_)
        fun key => (comments key).trans (comments' key)
      obtain ⟨w, hw⟩ := Keyed.mem_keys_iff.mp ((keys key).mp (Keyed.mem_keys_iff.mpr ⟨v, hv⟩))
      exact ih key v w hv hw (values' key w x hw hx)
  | _ => exact hbc

/-! ## Equality decides it -/

/-- Numbers are equal if they are of one kind and equal there. -/
theorem number_equals_iff {m n : Number} :
    m.equals n = true ↔ MeansSame (.number m) (.number n) := by
  cases m with
  | integer i =>
    cases n with
    | integer j =>
      constructor
      · intro h
        obtain rfl : i = j := by simpa [Number.equals] using h
        exact .integer i
      · rintro ⟨⟩
        simp [Number.equals]
    | float y => exact ⟨nofun, nofun⟩
  | float x =>
    cases n with
    | integer j => exact ⟨nofun, nofun⟩
    | float y => exact ⟨.float, fun | .float h => h⟩

theorem meansSame_self_of_leaf (hleaf : v.isLeaf = true) (hnumber : ∀ n, v ≠ .number n) :
    MeansSame v v := by
  cases v with
  | number n => exact absurd rfl (hnumber n)
  | list | config => cases hleaf
  | _ => constructor

theorem leaf_equals_iff (ha : a.isLeaf = true) : a.equals b = true ↔ MeansSame a b := by
  by_cases hnumber : ∃ n, a = .number n
  · obtain ⟨m, rfl⟩ := hnumber
    cases b with
    | number n => rw [equals, number_equals_iff]
    | _ => exact ⟨fun h => by simp [equals] at h, nofun⟩
  · constructor
    · intro h
      -- but for numbers, leaves are equal if they are identical
      obtain rfl : a = b := by
        cases a <;> cases b <;> simp_all [equals, isLeaf]
      exact meansSame_self_of_leaf ha fun n hn => hnumber ⟨n, hn⟩
    · intro h
      cases h <;> simp_all [equals, isLeaf]

theorem list_equals_iff {as : List Value} : (Value.list as).equals b = true ↔ ∃ bs, b = .list bs
    ∧ as.length = bs.length
    ∧ ∀ (i : Nat) (v w : Value), as[i]? = some v → bs[i]? = some w → v.equals w = true := by
  cases b with
  | list bs => simp only [equals, listEquals_iff, list.injEq, exists_eq_left']
  | _ => simp [equals]

theorem config_equals_iff {t : Tree} : (Value.config t).equals b = true ↔ ∃ u, b = .config u
    ∧ t.entries.length = u.entries.length
    ∧ (∀ p ∈ t.entries, ∃ w, u.get? p.1 = some w ∧ p.2.equals w = true)
    ∧ sameComments t.comments u.comments = true := by
  obtain ⟨entries, comments⟩ := t
  cases b with
  | config u =>
    obtain ⟨entries', comments'⟩ := u
    simp only [equals, Bool.and_eq_true, decide_eq_true_eq, entriesFound_iff, config.injEq,
      exists_eq_left', and_assoc]
    rfl
  | _ => simp [equals]

/-- Two well-formed values are equal exactly if they mean the same. -/
theorem equals_iff (ha : a.WellFormed) (hb : b.WellFormed) :
    a.equals b = true ↔ MeansSame a b := by
  induction a using leafInduction generalizing b with
  | leaf a hleaf => exact leaf_equals_iff hleaf
  | list as ih =>
    have hitems : ∀ {bs : List Value}, (Value.list bs).WellFormed → ∀ (i : Nat) (v w : Value),
        as[i]? = some v → bs[i]? = some w → (v.equals w = true ↔ MeansSame v w) := by
      intro bs hbs i v w hv hw
      have hmem : v ∈ as := List.mem_of_getElem? hv
      exact ih v hmem (ha.item hmem) (hbs.item (List.mem_of_getElem? hw))
    rw [list_equals_iff]
    constructor
    · rintro ⟨bs, rfl, hsize, hequal⟩
      exact .list hsize fun i v w hv hw => (hitems hb i v w hv hw).mp (hequal i v w hv hw)
    · intro h
      cases h with
      | @list _ bs hsize hsame =>
        exact ⟨bs, rfl, hsize, fun i v w hv hw => (hitems hb i v w hv hw).mpr (hsame i v w hv hw)⟩
  | config t ih =>
    obtain ⟨hentries, hcomments⟩ := ha t .self
    have hvalues : ∀ {u : Tree}, (Value.config u).WellFormed → ∀ key v w, t.get? key = some v →
        u.get? key = some w → (v.equals w = true ↔ MeansSame v w) := by
      intro u hu key v w hv hw
      have hmem : (key, v) ∈ t.entries := Keyed.mem_of_get? hv
      exact ih _ hmem (ha.entry hmem) (hu.entry (Keyed.mem_of_get? hw))
    rw [config_equals_iff]
    constructor
    · rintro ⟨u, rfl, hsize, hfound, hsame⟩
      obtain ⟨hentries', hcomments'⟩ := hb u .self
      have hsides := Keyed.found_iff (R := fun v w : Value => v.equals w = true) hentries hentries'
      obtain ⟨hkeys, hequal⟩ := hsides.mp ⟨hsize, hfound⟩
      exact .config hkeys
        (fun key v w hv hw => (hvalues hb key v w hv hw).mp (hequal key v w hv hw))
        ((sameComments_iff hcomments hcomments').mp hsame)
    · intro h
      cases h with
      | @config _ u hkeys hsame hsameComments =>
        obtain ⟨hentries', hcomments'⟩ := hb u .self
        obtain ⟨hsize, hfound⟩ := (Keyed.found_iff hentries hentries').mpr
          ⟨hkeys, fun key v w hv hw => (hvalues hb key v w hv hw).mpr (hsame key v w hv hw)⟩
        exact ⟨u, rfl, hsize, hfound, (sameComments_iff hcomments hcomments').mpr hsameComments⟩

/-! ## Equality with itself -/

/-- There is no NaN within the value. -/
def HasNoNaN (v : Value) : Prop :=
  ∀ x : Numeric.Binary64, (Value.number (.float x)).Within v → x.isNaN = false

theorem meansSame_self_of_hasNoNaN (h : v.HasNoNaN) : MeansSame v v := by
  induction v using leafInduction with
  | leaf v hleaf =>
    by_cases hnumber : ∃ n, v = .number n
    · obtain ⟨n, rfl⟩ := hnumber
      cases n with
      | integer n => exact .integer n
      | float x => exact .float (Numeric.Binary.equals_self_iff.mpr (h x .self))
    · exact meansSame_self_of_leaf hleaf fun n hn => hnumber ⟨n, hn⟩
  | list items ih =>
    refine .list rfl fun i v w hv hw => ?_
    obtain rfl : v = w := Option.some.inj (hv.symm.trans hw)
    have hmem : v ∈ items := List.mem_of_getElem? hv
    exact ih v hmem fun x hx => h x (.item hmem hx)
  | config t ih =>
    refine .config (fun _ => Iff.rfl) (fun key v w hv hw => ?_) fun _ => rfl
    obtain rfl : v = w := Option.some.inj (hv.symm.trans hw)
    have hmem : (key, v) ∈ t.entries := Keyed.mem_of_get? hv
    exact ih _ hmem fun x hx => h x (.entry hmem hx)

/-- Whatever stands within a value that is equal to itself is equal to itself, since every entry of a
map is found under its key. -/
theorem MeansSame.of_within (hv : v.WellFormed) (h : MeansSame v v) (hw : w.Within v) :
    MeansSame w w := by
  induction hw with
  | self => exact h
  | @item items v hmem _ ih =>
    obtain ⟨i, hi⟩ := List.getElem?_of_mem hmem
    cases h with
    | list _ hitems => exact ih (hv.item hmem) (hitems i v v hi hi)
  | @entry t p hmem _ ih =>
    have hp : t.get? p.1 = some p.2 := Keyed.get?_of_mem hv.distinct hmem
    cases h with
    | config _ hvalues _ => exact ih (hv.entry hmem) (hvalues p.1 p.2 p.2 hp hp)

theorem meansSame_self_iff (hv : v.WellFormed) : MeansSame v v ↔ v.HasNoNaN := by
  refine ⟨fun h x hx => ?_, meansSame_self_of_hasNoNaN⟩
  cases h.of_within hv hx with
  | float hself => exact Numeric.Binary.equals_self_iff.mp hself

/-! ## Reordering -/

/-- One map within a value, at any depth, has its entries or its comments in another order. -/
inductive Reorders : Value → Value → Prop where
  | map {t u : Tree} (entries : t.entries.Perm u.entries) (comments : t.comments.Perm u.comments) :
    Reorders (.config t) (.config u)
  | item {items : List Value} {i : Nat} {v w : Value} (hv : items[i]? = some v)
    (h : Reorders v w) : Reorders (.list items) (.list (items.set i w))
  | entry {t : Tree} {key : String} {v w : Value} (hv : t.get? key = some v) (h : Reorders v w) :
    Reorders (.config t) (.config (t.insert key w))

theorem Reorders.wellFormed (h : Reorders v w) (hv : v.WellFormed) : w.WellFormed := by
  induction h with
  | @map t u hentries hcomments =>
    obtain ⟨⟨hdistinct, hdistinct'⟩, hvalues⟩ := wellFormed_config_iff.mp hv
    refine wellFormed_config_iff.mpr ⟨⟨?_, ?_⟩, fun p hp => hvalues p (hentries.mem_iff.mpr hp)⟩
    · exact (hentries.map Prod.fst).nodup_iff.mp hdistinct
    · exact (hcomments.map Prod.fst).nodup_iff.mp hdistinct'
  | @item items i v w hget _ ih =>
    refine wellFormed_list_iff.mpr fun x hx => ?_
    rcases List.mem_or_eq_of_mem_set hx with hx | rfl
    · exact hv.item hx
    · exact ih (hv.item (List.mem_of_getElem? hget))
  | @entry t key v w hget _ ih =>
    have hmem : (key, v) ∈ t.entries := Keyed.mem_of_get? hget
    exact hv.insert key (ih (hv.entry hmem))

theorem Reorders.symm (h : Reorders v w) : Reorders w v := by
  induction h with
  | map hentries hcomments => exact .map hentries.symm hcomments.symm
  | @item items i v w hget _ ih =>
    obtain ⟨hlt, rfl⟩ := List.getElem?_eq_some_iff.mp hget
    have hself : (items.set i w)[i]? = some w := by simp [hlt]
    have hreorders := Reorders.item hself ih
    rwa [List.set_set, List.set_getElem_self hlt] at hreorders
  | @entry t key v w hget _ ih =>
    have hself : (t.insert key w).get? key = some w := Keyed.get?_insert_self _ _ _
    have hback : (t.insert key w).insert key v = t := by
      obtain ⟨entries, comments⟩ := t
      have hentries : Keyed.insert (Keyed.insert entries key w) key v = entries := by
        rw [Keyed.insert_insert_self, Keyed.insert_of_get? hget]
      exact congrArg (Tree.mk · comments) hentries
    have hreorders := Reorders.entry hself ih
    rwa [hback] at hreorders

/-- A value with a map in another order means the same as what it meant before. -/
theorem MeansSame.reorders (hsame : MeansSame v u) (h : Reorders v w) (hv : v.WellFormed) :
    MeansSame w u := by
  induction h generalizing u with
  | @map t t' hentries hcomments =>
    obtain ⟨hdistinct, hdistinct'⟩ := hv t .self
    have hget : ∀ key, t.get? key = t'.get? key := Keyed.get?_perm hdistinct hentries
    have hcomment : ∀ key, t.comment? key = t'.comment? key := Keyed.get?_perm hdistinct' hcomments
    cases hsame with
    | config hkeys hvalues hsameComments =>
      refine .config (fun key => ?_) (fun key v w hv hw => ?_) fun key => ?_
      · exact (hentries.map Prod.fst).mem_iff.symm.trans (hkeys key)
      · exact hvalues key v w ((hget key).trans hv) hw
      · exact (hcomment key).symm.trans (hsameComments key)
  | @item items i v w hget _ ih =>
    cases hsame with
    | list hsize hitems =>
      refine .list (by simpa using hsize) fun j y x hy hx => ?_
      rw [List.getElem?_set] at hy
      by_cases hj : i = j
      · subst hj
        have hlt : i < items.length := (List.getElem?_eq_some_iff.mp hget).1
        obtain rfl : w = y := by simpa [hlt] using hy
        exact ih (hitems i v x hget hx) (hv.item (List.mem_of_getElem? hget))
      · rw [if_neg hj] at hy
        exact hitems j y x hy hx
  | @entry t key v w hget _ ih =>
    have hmem : (key, v) ∈ t.entries := Keyed.mem_of_get? hget
    have hkeys : (t.insert key w).keys = t.keys := by
      rw [Tree.keys, Tree.insert, Keyed.keys_insert,
        if_pos (Keyed.mem_keys_iff.mpr ⟨v, hget⟩), Tree.keys]
    cases hsame with
    | config hsameKeys hvalues hcomments =>
      refine .config (fun other => hkeys ▸ hsameKeys other) (fun other y x hy hx => ?_) hcomments
      by_cases hkey : other = key
      · subst hkey
        obtain rfl : w = y := Option.some.inj ((Keyed.get?_insert_self _ _ _).symm.trans hy)
        exact ih (hvalues other v x hget hx) (hv.entry hmem)
      · have hother : (t.insert key w).get? other = t.get? other :=
          Keyed.get?_insert_of_ne _ _ hkey
        exact hvalues other y x (hother.symm.trans hy) hx

/-- It makes no difference to any comparison in which order a map comes. -/
theorem meansSame_reorders_iff (h : Reorders v w) (hv : v.WellFormed) (u : Value) :
    MeansSame v u ↔ MeansSame w u :=
  ⟨fun hsame => hsame.reorders h hv, fun hsame => hsame.reorders h.symm (h.wellFormed hv)⟩

/-! ## The laws of equality -/

theorem equals_symm (ha : a.WellFormed) (hb : b.WellFormed) : a.equals b = b.equals a := by
  rw [Bool.eq_iff_iff, equals_iff ha hb, equals_iff hb ha]
  exact ⟨MeansSame.symm, MeansSame.symm⟩

theorem equals_reorders (h : Relation.ReflTransGen Reorders a b) (ha : a.WellFormed)
    (hc : c.WellFormed) : b.WellFormed ∧ b.equals c = a.equals c := by
  induction h with
  | refl => exact ⟨ha, rfl⟩
  | tail _ hstep ih =>
    obtain ⟨hmiddle, hequals⟩ := ih
    have hend := hstep.wellFormed hmiddle
    refine ⟨hend, ?_⟩
    rw [← hequals, Bool.eq_iff_iff, equals_iff hend hc, equals_iff hmiddle hc]
    exact (meansSame_reorders_iff hstep hmiddle c).symm

/-- What holds of comparisons among three values. -/
structure EqualityLaws (a b c : Value) : Prop where
  symm : a.equals b = b.equals a
  trans : a.equals b = true → b.equals c = true → a.equals c = true
  /-- A value is equal to itself but for NaNs. -/
  self_iff : a.equals a = true ↔ a.HasNoNaN
  /-- Orders of entries and of comments do not count, on either side. -/
  reordered : ∀ a', Relation.ReflTransGen Reorders a a' →
    a'.equals b = a.equals b ∧ b.equals a' = b.equals a
  /-- Equal values agree from one constructor to the next. -/
  meansSame : a.equals b = true ↔ MeansSame a b

/-- Equality of well-formed values is symmetric and transitive, and reflexive but for NaNs; it takes
no notice of orders, and it goes down through lists and maps. -/
theorem equalityLaws (ha : a.WellFormed) (hb : b.WellFormed) (hc : c.WellFormed) :
    EqualityLaws a b c where
  symm := equals_symm ha hb
  trans hab hbc :=
    (equals_iff ha hc).mpr (((equals_iff ha hb).mp hab).trans ((equals_iff hb hc).mp hbc))
  self_iff := (equals_iff ha ha).trans (meansSame_self_iff ha)
  reordered a' h := by
    obtain ⟨ha', hequals⟩ := equals_reorders h ha hb
    exact ⟨hequals, by rw [equals_symm hb ha', equals_symm hb ha, hequals]⟩
  meansSame := equals_iff ha hb

end Value

namespace Example

/-- A measurement with a map inside a list, for a float to be put in. -/
def measurement (x : Numeric.Binary64) : Value :=
  .config ⟨[("unit", .string "m"),
    ("values", .list [.number (.float x),
      .config ⟨[("low", .number (.integer 1)), ("high", .number (.integer 2))], []⟩])],
    [("unit", "metre"), ("values", "per hour")]⟩

/-- The measurement with all its keys the other way round. -/
def measurementReversed (x : Numeric.Binary64) : Value :=
  .config ⟨[("values", .list [.number (.float x),
      .config ⟨[("high", .number (.integer 2)), ("low", .number (.integer 1))], []⟩]),
    ("unit", .string "m")], [("values", "per hour"), ("unit", "metre")]⟩

theorem wellFormed_measurement (x : Numeric.Binary64) :
    (measurement x).WellFormed ∧ (measurementReversed x).WellFormed := by
  simp only [measurement, measurementReversed, Value.wellFormed_config_iff,
    Value.wellFormed_list_iff, List.forall_mem_cons]
  refine ⟨⟨?_, nofun, ⟨nofun, ⟨?_, nofun, nofun, nofun⟩, nofun⟩, nofun⟩,
    ⟨?_, ⟨nofun, ⟨?_, nofun, nofun, nofun⟩, nofun⟩, nofun, nofun⟩⟩
  all_goals simp [Keyed.Distinct, Keyed.keys]

/-- Other orders and the other zero make no difference, and a NaN inside makes a value differ from
itself. -/
theorem equalityLaws_measurement :
    let zero := Numeric.Binary.ofBits .double 0
    let negativeZero := Numeric.Binary.ofBits .double 0x8000000000000000
    let nan := Numeric.Binary.nan .double
    Value.EqualityLaws (measurement zero) (measurementReversed negativeZero) (measurement zero)
      ∧ (measurement zero).equals (measurementReversed negativeZero) = true
      ∧ Value.EqualityLaws (measurement nan) (measurementReversed nan) (measurement zero)
      ∧ (measurement nan).equals (measurement nan) = false := by
  intro zero negativeZero nan
  have hwell := wellFormed_measurement
  refine ⟨Value.equalityLaws (hwell zero).1 (hwell negativeZero).2 (hwell zero).1, ?_,
    Value.equalityLaws (hwell nan).1 (hwell nan).2 (hwell zero).1, ?_⟩
  · decide +kernel
  · decide +kernel

end Example

end ConfigBinding
