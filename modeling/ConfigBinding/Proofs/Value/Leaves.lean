import ConfigBinding.Proofs.Value.Normal

/-!
# Changing the leaves of a value

What is neither a list nor a map is a leaf. Where only the leaves of a value are changed
(`Value.mapLeaves`), lists keep their order, and maps their keys and the order of them; comments are
dropped. The normal form of a value is made in this way (`Value.normal_eq_mapLeaves`), and so is its
erased form, in which texts stand for all date-times and for all big integers (`Value.erased`).

What such a change does to a whole value can be seen from the leaves. Two changes one after the
other are one (`Value.mapLeaves_mapLeaves`), so a form of a value is its own form if that is so for
leaves. And what stands within the result comes from something within the value
(`Value.exists_of_within_mapLeaves`), so no key comes to be in a map twice.
-/

namespace ConfigBinding

namespace Value

/-- Whether the value has no parts: it is neither a list nor a map. -/
def isLeaf : Value → Bool
  | .list _ | .config _ => false
  | _ => true

private theorem sizeOf_lt_config {tree : Tree} {p : String × Value} (h : p ∈ tree.entries) :
    sizeOf p.2 < sizeOf (Value.config tree) := by
  obtain ⟨entries, comments⟩ := tree
  obtain ⟨key, v⟩ := p
  have hmem : sizeOf (key, v) < sizeOf entries := List.sizeOf_lt_of_mem h
  simp only [Prod.mk.sizeOf_spec, Value.config.sizeOf_spec, Tree.mk.sizeOf_spec] at hmem ⊢
  omega

/-- Induction over values: what holds of all leaves, of lists with such items and of maps with such
entries holds of all values. -/
@[elab_as_elim]
theorem leafInduction {motive : Value → Prop} (leaf : ∀ v, v.isLeaf = true → motive v)
    (list : ∀ items, (∀ v ∈ items, motive v) → motive (.list items))
    (config : ∀ tree, (∀ p ∈ tree.entries, motive p.2) → motive (.config tree)) :
    ∀ v, motive v
  | .list items => list items fun v _ => leafInduction leaf list config v
  | .config tree => config tree fun p _ => leafInduction leaf list config p.2
  | .null => leaf _ rfl
  | .bool _ => leaf _ rfl
  | .number _ => leaf _ rfl
  | .string _ => leaf _ rfl
  | .dateTime _ => leaf _ rfl
  | .bigInt _ => leaf _ rfl
termination_by v => sizeOf v
decreasing_by
  · rename_i hmem
    exact Nat.lt_trans (List.sizeOf_lt_of_mem hmem) (by simp)
  · rename_i hmem
    exact sizeOf_lt_config hmem

mutual

/-- The value with its leaves changed, and without comments. -/
def mapLeaves (f : Value → Value) : Value → Value
  | .list items => .list (mapItemLeaves f items)
  | .config ⟨entries, _⟩ => .config ⟨mapEntryLeaves f entries, []⟩
  | v => f v

/-- The items of a list with their leaves changed. -/
def mapItemLeaves (f : Value → Value) : List Value → List Value
  | [] => []
  | v :: rest => mapLeaves f v :: mapItemLeaves f rest

/-- The entries of a map with the leaves of their values changed. -/
def mapEntryLeaves (f : Value → Value) : List (String × Value) → List (String × Value)
  | [] => []
  | (k, v) :: rest => (k, mapLeaves f v) :: mapEntryLeaves f rest

end

variable {f g k : Value → Value} {v w : Value}

theorem mapLeaves_of_isLeaf (hv : v.isLeaf = true) : v.mapLeaves f = f v := by
  cases v <;> first | rfl | cases hv

theorem mapLeaves_list (items : List Value) :
    (Value.list items).mapLeaves f = .list (items.map (mapLeaves f)) := by
  rw [mapLeaves]
  congr 1
  induction items with
  | nil => rfl
  | cons v rest ih => rw [mapItemLeaves, ih, List.map_cons]

theorem mapLeaves_config (tree : Tree) :
    (Value.config tree).mapLeaves f = .config ⟨Keyed.mapValues (mapLeaves f) tree.entries, []⟩ := by
  obtain ⟨entries, comments⟩ := tree
  rw [mapLeaves]
  congr 2
  induction entries with
  | nil => rfl
  | cons p rest ih => rw [mapEntryLeaves, ih]; rfl

/-! ## What is within the result -/

/-- A leaf has nothing within it but itself. -/
theorem eq_of_within_leaf (hv : v.isLeaf = true) (h : w.Within v) : w = v := by
  cases h with
  | self => rfl
  | item | entry => cases hv

/-- What stands within a value with changed leaves is a part of the value with changed leaves. -/
theorem exists_of_within_mapLeaves (hf : ∀ v, v.isLeaf = true → (f v).isLeaf = true)
    (h : w.Within (v.mapLeaves f)) : ∃ u : Value, u.Within v ∧ w = u.mapLeaves f := by
  induction v using leafInduction with
  | leaf v hv =>
    rw [mapLeaves_of_isLeaf hv] at h
    exact ⟨v, .self, by rw [mapLeaves_of_isLeaf hv, eq_of_within_leaf (hf v hv) h]⟩
  | list items ih =>
    rw [mapLeaves_list, within_list_iff] at h
    rcases h with rfl | ⟨_, hmem, h⟩
    · exact ⟨_, .self, (mapLeaves_list items).symm⟩
    · obtain ⟨v, hv, rfl⟩ := List.mem_map.mp hmem
      obtain ⟨u, hu, hw⟩ := ih v hv h
      exact ⟨u, .item hv hu, hw⟩
  | config tree ih =>
    rw [mapLeaves_config, within_config_iff] at h
    rcases h with rfl | ⟨_, hmem, h⟩
    · exact ⟨_, .self, (mapLeaves_config tree).symm⟩
    · obtain ⟨p, hp, rfl⟩ := List.mem_map.mp hmem
      obtain ⟨u, hu, hw⟩ := ih p hp h
      exact ⟨u, .entry hp hu, hw⟩

/-- Other leaves do not make a key occur twice. -/
theorem WellFormed.mapLeaves (hf : ∀ v, v.isLeaf = true → (f v).isLeaf = true)
    (hv : v.WellFormed) : (v.mapLeaves f).WellFormed := by
  intro tree htree
  obtain ⟨u, hu, heq⟩ := exists_of_within_mapLeaves hf htree
  cases hleaf : u.isLeaf with
  | true =>
    have hresult := hf u hleaf
    rw [← mapLeaves_of_isLeaf hleaf (f := f), ← heq] at hresult
    cases hresult
  | false =>
    cases u with
    | config tree' =>
      rw [mapLeaves_config] at heq
      obtain rfl := Value.config.inj heq
      exact ⟨(Keyed.distinct_mapValues _ _).mpr (hv tree' hu).1, List.nodup_nil⟩
    | list items =>
      rw [mapLeaves_list] at heq
      cases heq
    | _ => cases hleaf

/-! ## One change after the other -/

/-- Two changes of the leaves, one after the other, are one change. -/
theorem mapLeaves_mapLeaves (hf : ∀ v, v.isLeaf = true → (f v).isLeaf = true)
    (hk : ∀ v, v.isLeaf = true → g (f v) = k v) : (v.mapLeaves f).mapLeaves g = v.mapLeaves k := by
  induction v using leafInduction with
  | leaf v hv =>
    rw [mapLeaves_of_isLeaf hv, mapLeaves_of_isLeaf (hf v hv), mapLeaves_of_isLeaf hv, hk v hv]
  | list items ih =>
    rw [mapLeaves_list, mapLeaves_list, mapLeaves_list, List.map_map]
    exact congrArg Value.list (List.map_congr_left ih)
  | config tree ih =>
    rw [mapLeaves_config, mapLeaves_config, mapLeaves_config, Keyed.mapValues, Keyed.mapValues,
      Keyed.mapValues, List.map_map]
    refine congrArg (fun entries => Value.config ⟨entries, []⟩) (List.map_congr_left fun p hp => ?_)
    exact congrArg (Prod.mk p.1) (ih p hp)

/-! ## The normal form -/

/-- Lists and maps are as normal as what they hold. -/
theorem normal_eq_mapLeaves (v : Value) : v.normal = v.mapLeaves normal := by
  induction v using leafInduction with
  | leaf v hv => exact (mapLeaves_of_isLeaf hv).symm
  | list items ih =>
    rw [normal, normalItems_eq_map, mapLeaves_list]
    exact congrArg Value.list (List.map_congr_left ih)
  | config tree ih =>
    obtain ⟨entries, comments⟩ := tree
    rw [normal, normalEntries_eq_mapValues, mapLeaves_config]
    refine congrArg (fun entries => Value.config ⟨entries, []⟩) (List.map_congr_left fun p hp => ?_)
    exact congrArg (Prod.mk p.1) (ih p hp)

theorem isLeaf_ofInt (n : Int) : (ofInt n).isLeaf = true := by
  unfold ofInt
  split <;> rfl

/-- The normal form of an integer is the integer, unless it lies beyond 128 bits. -/
theorem normal_ofInt {n : Int} (h : -2 ^ 127 ≤ n ∧ n < 2 ^ 128) : (ofInt n).normal = ofInt n := by
  by_cases hnarrow : -2 ^ 63 ≤ n ∧ n < 2 ^ 63
  · rw [ofInt, if_pos hnarrow]
    rfl
  · have hself : ofInt n = .bigInt n := if_neg hnarrow
    rw [hself, normal, if_pos h, hself]

theorem isLeaf_normal (hv : v.isLeaf = true) : v.normal.isLeaf = true := by
  cases v with
  | bigInt n =>
    rw [normal]
    split
    · exact isLeaf_ofInt n
    · rfl
  | list | config => cases hv
  | _ => rfl

theorem normal_normal_of_isLeaf (hv : v.isLeaf = true) : v.normal.normal = v.normal := by
  cases v with
  | bigInt n =>
    rw [normal]
    split
    · rename_i hbounds
      exact normal_ofInt hbounds
    · rfl
  | list | config => cases hv
  | _ => rfl

/-- A value in its normal form stays as it is. -/
theorem normal_normal (v : Value) : v.normal.normal = v.normal := by
  rw [normal_eq_mapLeaves v, normal_eq_mapLeaves (v.mapLeaves normal)]
  exact mapLeaves_mapLeaves (fun _ => isLeaf_normal) fun _ => normal_normal_of_isLeaf

/-! ## The erased form -/

/-- A date-time as its RFC 3339 text and a big integer as its decimal text; other leaves stay. -/
def erasedLeaf : Value → Value
  | .dateTime t => .string t.toRfc3339
  | .bigInt n => .string (toString n)
  | v => v

/-- The value without comments, with texts for all date-times and big integers. -/
def erased (v : Value) : Value := v.mapLeaves erasedLeaf

theorem isLeaf_erasedLeaf (hv : v.isLeaf = true) : (erasedLeaf v).isLeaf = true := by
  cases v <;> first | rfl | cases hv

/-- The erased form of a value is in its normal form. -/
theorem normal_erased (v : Value) : v.erased.normal = v.erased := by
  rw [normal_eq_mapLeaves]
  refine mapLeaves_mapLeaves (fun _ => isLeaf_erasedLeaf) fun v hv => ?_
  cases v <;> first | rfl | cases hv

/-- A value in its erased form stays as it is. -/
theorem erased_erased (v : Value) : v.erased.erased = v.erased := by
  refine mapLeaves_mapLeaves (fun _ => isLeaf_erasedLeaf) fun v _ => ?_
  cases v <;> rfl

/-- No big integer is left in the erased form. -/
theorem not_bigInt_within_erased (n : Int) (v : Value) : ¬ (Value.bigInt n).Within v.erased := by
  intro h
  obtain ⟨u, -, heq⟩ := exists_of_within_mapLeaves (fun _ => isLeaf_erasedLeaf) h
  cases u with
  | list items =>
    rw [mapLeaves_list] at heq
    cases heq
  | config tree =>
    rw [mapLeaves_config] at heq
    cases heq
  | _ => cases heq

theorem WellFormed.erased (hv : v.WellFormed) : v.erased.WellFormed :=
  hv.mapLeaves fun _ => isLeaf_erasedLeaf

end Value

end ConfigBinding
