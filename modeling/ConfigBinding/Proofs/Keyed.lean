import ConfigBinding.Keyed
import Mathlib.Data.List.Forall2

/-!
# Entries of keyed lists

Where no key occurs twice, every entry of a keyed list is found under its key, whatever the order of
the entries is. Pairs that are stored one after the other (`Keyed.insertAll`) leave the keys that are
there where they are; under new and distinct keys they go to the end as they come.
-/

namespace ConfigBinding.Keyed

variable {α β : Type}

/-- In a keyed list with distinct keys every entry is found. -/
theorem get?_of_mem {entries : List (String × α)} (h : Distinct entries) {key : String} {value : α}
    (hmem : (key, value) ∈ entries) : get? entries key = some value := by
  induction entries with
  | nil => simp at hmem
  | cons p rest ih =>
    obtain ⟨k, v⟩ := p
    obtain ⟨hnew, hrest⟩ := List.nodup_cons.mp h
    rw [get?_cons]
    rcases List.mem_cons.mp hmem with heq | hmem
    · obtain ⟨rfl, rfl⟩ := Prod.mk.inj heq
      rw [if_pos rfl]
    · have hkey : key ∈ keys rest := List.mem_map.mpr ⟨(key, value), hmem, rfl⟩
      rw [if_neg fun hk : k = key => hnew (hk ▸ hkey)]
      exact ih hrest hmem

/-- What is found is an entry. -/
theorem mem_of_get? {entries : List (String × α)} {key : String} {value : α}
    (h : get? entries key = some value) : (key, value) ∈ entries := by
  induction entries with
  | nil => simp at h
  | cons p rest ih =>
    obtain ⟨k, v⟩ := p
    rw [get?_cons] at h
    split at h
    · rename_i hk
      rw [← hk, Option.some.inj h]
      exact List.mem_cons_self
    · exact List.mem_cons_of_mem _ (ih h)

/-- Something is found under exactly the keys. -/
theorem mem_keys_iff {entries : List (String × α)} {key : String} :
    key ∈ keys entries ↔ ∃ value, get? entries key = some value := by
  rw [← contains_iff_mem_keys, contains, Option.isSome_iff_exists]

theorem get?_eq_none_iff {entries : List (String × α)} {key : String} :
    get? entries key = none ↔ key ∉ keys entries := by
  rw [mem_keys_iff, Option.eq_none_iff_forall_ne_some, not_exists]

/-- A key in the back of a keyed list with distinct keys is not in the front. -/
theorem not_mem_of_distinct_append {front back : List (String × α)} {key : String} {value : α}
    (h : Distinct (front ++ (key, value) :: back)) : key ∉ keys front := by
  intro hmem
  rw [Distinct, keys, List.map_append] at h
  exact (List.nodup_append.mp h).2.2 key hmem key List.mem_cons_self rfl

/-- A new key goes to the end. -/
theorem insert_of_not_mem {entries : List (String × α)} {key : String} (h : key ∉ keys entries)
    (value : α) : insert entries key value = entries ++ [(key, value)] := by
  induction entries with
  | nil => rfl
  | cons p rest ih =>
    obtain ⟨k, v⟩ := p
    have hne : ¬ k = key := fun hk => h (hk ▸ List.mem_cons_self)
    rw [insert, if_neg hne, ih fun hmem => h (List.mem_cons_of_mem _ hmem), List.cons_append]

/-- Writing what a key holds changes nothing. -/
theorem insert_of_get? {entries : List (String × α)} {key : String} {value : α}
    (h : get? entries key = some value) : insert entries key value = entries := by
  induction entries with
  | nil => cases h
  | cons p rest ih =>
    obtain ⟨k, v⟩ := p
    rw [get?_cons] at h
    rw [insert]
    split at h
    · rename_i hk
      rw [if_pos hk, Option.some.inj h]
    · rename_i hk
      rw [if_neg hk, ih h]

/-- In a keyed list with distinct keys, writing over a key changes what its entry holds. -/
theorem insert_eq_map {entries : List (String × α)} (h : Distinct entries) {key : String}
    (hkey : key ∈ keys entries) (value : α) :
    insert entries key value = entries.map fun p => if p.1 = key then (key, value) else p := by
  induction entries with
  | nil => cases hkey
  | cons p rest ih =>
    obtain ⟨k, v⟩ := p
    obtain ⟨hnew, hrest⟩ : k ∉ keys rest ∧ Distinct rest := List.nodup_cons.mp h
    rw [insert, List.map_cons]
    by_cases hk : k = key
    · subst hk
      -- the key does not come again, so nothing else changes
      have hsame : ∀ p ∈ rest, (if p.1 = k then (k, value) else p) = p := by
        intro p hp
        have hne : p.1 ≠ k := fun heq => hnew (heq ▸ List.mem_map_of_mem hp)
        rw [if_neg hne]
      rw [if_pos rfl, if_pos rfl, List.map_congr_left hsame, List.map_id']
    · rw [if_neg hk, if_neg hk, ih hrest ((List.mem_cons.mp hkey).resolve_left (Ne.symm hk))]

/-- What is in a keyed list after writing was there before, or was written. -/
theorem mem_insert {entries : List (String × α)} {key : String} {value : α} {p : String × α}
    (h : p ∈ insert entries key value) : p = (key, value) ∨ p ∈ entries := by
  induction entries with
  | nil => exact .inl (List.mem_singleton.mp h)
  | cons q rest ih =>
    obtain ⟨k, v⟩ := q
    rw [insert] at h
    split at h
    · rename_i hk
      rw [hk] at h
      exact (List.mem_cons.mp h).imp_right (List.mem_cons_of_mem _)
    · rcases List.mem_cons.mp h with rfl | h
      · exact .inr List.mem_cons_self
      · exact (ih h).imp_right (List.mem_cons_of_mem _)

/-- The value that is written last stays. -/
theorem insert_insert_self (entries : List (String × α)) (key : String) (value value' : α) :
    insert (insert entries key value) key value' = insert entries key value' := by
  induction entries with
  | nil => exact if_pos rfl
  | cons p rest ih =>
    obtain ⟨k, v⟩ := p
    by_cases hk : k = key
    · subst hk
      rw [insert, insert, if_pos rfl, if_pos rfl, insert, if_pos rfl]
    · rw [insert, insert, if_neg hk, if_neg hk, insert, if_neg hk, ih]

/-- Writing two keys in either order comes to the same, if one of them is there. -/
theorem insert_comm {entries : List (String × α)} {key key' : String} (hne : key ≠ key')
    (h : (get? entries key).isSome) (value value' : α) :
    insert (insert entries key value) key' value'
      = insert (insert entries key' value') key value := by
  induction entries with
  | nil => cases h
  | cons p rest ih =>
    obtain ⟨k, v⟩ := p
    rw [get?_cons] at h
    by_cases hk : k = key
    · subst hk
      rw [insert, if_pos rfl, insert, if_neg hne, insert, if_neg hne, insert, if_pos rfl]
    · rw [if_neg hk] at h
      by_cases hk' : k = key'
      · subst hk'
        rw [insert, if_neg hk, insert, if_pos rfl, insert, if_pos rfl, insert, if_neg hk]
      · rw [insert, if_neg hk, insert, if_neg hk', insert, if_neg hk', insert, if_neg hk, ih h]

/-- In a keyed list with distinct keys the order does not matter for what is found. -/
theorem get?_perm {entries entries' : List (String × α)} (hdistinct : Distinct entries)
    (h : entries.Perm entries') (key : String) : get? entries key = get? entries' key := by
  have hdistinct' : Distinct entries' := (h.map Prod.fst).nodup_iff.mp hdistinct
  ext value
  constructor
  · exact fun hget => get?_of_mem hdistinct' (h.mem_iff.mp (mem_of_get? hget))
  · exact fun hget => get?_of_mem hdistinct (h.mem_iff.mpr (mem_of_get? hget))

/-- Other values do not make a key occur twice. -/
theorem distinct_mapValues (f : α → β) (entries : List (String × α)) :
    Distinct (mapValues f entries) ↔ Distinct entries := by
  rw [Distinct, keys_mapValues, Distinct]

/-! ## Erasing -/

/-- Erasing one key leaves what the others hold. -/
theorem get?_erase_of_ne (entries : List (String × α)) {key other : String} (h : other ≠ key) :
    get? (erase entries key) other = get? entries other := by
  induction entries with
  | nil => rfl
  | cons p rest ih =>
    obtain ⟨k, v⟩ := p
    rw [erase, get?_cons]
    by_cases hk : k = key
    · rw [if_pos hk, if_neg fun hother : k = other => h (hother.symm.trans hk)]
    · rw [if_neg hk, get?_cons, ih]

/-- In a keyed list with distinct keys, exactly the entry of the key is erased. -/
theorem erase_eq_filter {entries : List (String × α)} (h : Distinct entries) (key : String) :
    erase entries key = entries.filter fun p => p.1 ≠ key := by
  induction entries with
  | nil => rfl
  | cons p rest ih =>
    obtain ⟨k, v⟩ := p
    obtain ⟨hnew, hrest⟩ : k ∉ keys rest ∧ Distinct rest := List.nodup_cons.mp h
    rw [erase]
    by_cases hk : k = key
    · -- the key does not come again, so nothing else is left out
      have hall : ∀ p ∈ rest, decide (p.1 ≠ key) = true := by
        intro p hp
        have hmem : p.1 ∈ keys rest := List.mem_map_of_mem hp
        simpa using fun heq : p.1 = key => hnew (hk.trans heq.symm ▸ hmem)
      rw [if_pos hk, List.filter_cons_of_neg (by simpa using hk), List.filter_eq_self.mpr hall]
    · rw [if_neg hk, List.filter_cons_of_pos (by simpa using hk), ih hrest]

theorem get?_erase_self {entries : List (String × α)} (h : Distinct entries) (key : String) :
    get? (erase entries key) key = none := by
  rw [get?_eq_none_iff, keys_erase]
  exact h.not_mem_erase

/-! ## Many pairs -/

section InsertAll

variable {entries pairs : List (String × α)} {key : String} {value : α}

/-- Stores pairs one after the other. -/
def insertAll (entries pairs : List (String × α)) : List (String × α) :=
  pairs.foldl (fun entries p => insert entries p.1 p.2) entries

theorem get?_insertAll_of_not_mem (h : key ∉ keys pairs) :
    get? (insertAll entries pairs) key = get? entries key := by
  induction pairs generalizing entries with
  | nil => rfl
  | cons p rest ih =>
    obtain ⟨hne, hrest⟩ := List.ne_and_not_mem_of_not_mem_cons h
    have hinsert : get? (insert entries p.1 p.2) key = get? entries key :=
      get?_insert_of_ne entries p.2 hne
    exact (ih hrest).trans hinsert

theorem get?_insertAll_of_mem (hdistinct : Distinct pairs) (h : (key, value) ∈ pairs) :
    get? (insertAll entries pairs) key = some value := by
  induction pairs generalizing entries with
  | nil => cases h
  | cons p rest ih =>
    obtain ⟨hnew, hrest⟩ := List.nodup_cons.mp hdistinct
    rcases List.mem_cons.mp h with rfl | h
    · exact (get?_insertAll_of_not_mem hnew).trans (get?_insert_self _ _ _)
    · exact ih hrest h

/-- Keys that are there stay where they are, and new ones go to the end, in the order in which they
come. -/
theorem keys_insertAll (hdistinct : Distinct pairs) :
    keys (insertAll entries pairs) = keys entries ++ (keys pairs).filter (· ∉ keys entries) := by
  induction pairs generalizing entries with
  | nil => exact (List.append_nil _).symm
  | cons p rest ih =>
    obtain ⟨hnew, hrest⟩ : p.1 ∉ keys rest ∧ Distinct rest := List.nodup_cons.mp hdistinct
    show keys (insertAll (insert entries p.1 p.2) rest) = _ ++ (p.1 :: keys rest).filter _
    rw [ih hrest, keys_insert]
    split
    · rename_i hmem
      rw [List.filter_cons_of_neg (by simpa using hmem)]
    · rename_i hmem
      -- the keys behind a new one differ from it
      have hfilter : (keys rest).filter (· ∉ keys entries ++ [p.1])
          = (keys rest).filter (· ∉ keys entries) := by
        refine List.filter_congr fun key hkey => ?_
        have hne : key ≠ p.1 := fun heq => hnew (heq ▸ hkey)
        simp [hne]
      rw [hfilter, List.filter_cons_of_pos (by simpa using hmem), List.append_assoc,
        List.singleton_append]

/-- Pairs under new and distinct keys go to the end. -/
theorem insertAll_eq_append (h : Distinct (entries ++ pairs)) :
    insertAll entries pairs = entries ++ pairs := by
  induction pairs generalizing entries with
  | nil => exact (List.append_nil _).symm
  | cons p rest ih =>
    have hnew : p.1 ∉ keys entries := not_mem_of_distinct_append h
    rw [List.append_cons] at h ⊢
    show insertAll (insert entries p.1 p.2) rest = _
    rw [insert_of_not_mem hnew]
    exact ih h

/-- Pairs with distinct keys are a keyed list as they are. -/
theorem insertAll_nil (h : Distinct pairs) : insertAll [] pairs = pairs :=
  insertAll_eq_append h

end InsertAll

/-! ## Repeated keys -/

/-- What is left of pairs that are stored one after the other: a repeated key keeps its first
position and takes its last value. -/
structure Collects (pairs entries : List (String × α)) : Prop where
  keys_eq : keys entries = (keys pairs).eraseDups
  get?_eq : ∀ key, get? entries key = get? pairs.reverse key

theorem Collects.snoc {pairs entries : List (String × α)} (h : Collects pairs entries)
    (p : String × α) : Collects (pairs ++ [p]) (insert entries p.1 p.2) := by
  refine ⟨?_, fun key => ?_⟩
  · have hkeys : keys (pairs ++ [p]) = keys pairs ++ [p.1] := List.map_append
    rw [keys_insert, h.keys_eq, hkeys, List.eraseDups_append]
    by_cases hmem : p.1 ∈ keys pairs
    · simp [List.removeAll, hmem]
    · simp [List.removeAll, hmem, List.eraseDups_cons]
  · rw [List.reverse_concat, get?_cons]
    by_cases hkey : p.1 = key
    · subst hkey
      rw [if_pos rfl, get?_insert_self]
    · rw [if_neg hkey, get?_insert_of_ne entries p.2 (Ne.symm hkey), h.get?_eq]

end ConfigBinding.Keyed
