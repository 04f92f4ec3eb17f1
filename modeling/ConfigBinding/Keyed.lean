/-!
# Keyed lists

A list of pairs read as a finite map that remembers the order in which its keys came. Overwriting a
key leaves it where it is, a new key goes to the end, and erasing a key moves no other. None of the
operations makes a key occur twice, so a keyed list built by them has pairwise distinct keys
(`Keyed.Distinct`); in one that has not, the first occurrence counts.
-/

namespace ConfigBinding.Keyed

variable {α β : Type}

/-- The keys in their order. -/
def keys (entries : List (String × α)) : List String := entries.map (·.1)

/-- No key occurs twice. -/
def Distinct (entries : List (String × α)) : Prop := (keys entries).Nodup

/-- What is stored under a key. -/
def get? : List (String × α) → String → Option α
  | [], _ => none
  | (k, v) :: rest, key => if k = key then some v else get? rest key

/-- Whether something is stored under a key. -/
def contains (entries : List (String × α)) (key : String) : Bool :=
  (get? entries key).isSome

/-- Stores a value under a key: in place if the key is there, else at the end. -/
def insert : List (String × α) → String → α → List (String × α)
  | [], key, value => [(key, value)]
  | (k, v) :: rest, key, value =>
    if k = key then (k, value) :: rest else (k, v) :: insert rest key value

/-- Drops a key; the other keys keep their order. -/
def erase : List (String × α) → String → List (String × α)
  | [], _ => []
  | (k, v) :: rest, key => if k = key then rest else (k, v) :: erase rest key

/-- The keyed list of some pairs: a repeated key keeps its first position and its last value. -/
def ofList (pairs : List (String × α)) : List (String × α) :=
  pairs.foldl (fun entries p => insert entries p.1 p.2) []

/-- The same keys with other values. -/
def mapValues (f : α → β) (entries : List (String × α)) : List (String × β) :=
  entries.map fun p => (p.1, f p.2)

/-- The pairs with their keys in ascending order of code points, which is also the order of their
UTF-8 bytes. -/
def sorted (entries : List (String × α)) : List (String × α) :=
  entries.mergeSort fun p q => decide (p.1 ≤ q.1)

@[simp] theorem get?_nil (key : String) : get? ([] : List (String × α)) key = none := rfl

theorem get?_cons (k : String) (v : α) (rest : List (String × α)) (key : String) :
    get? ((k, v) :: rest) key = if k = key then some v else get? rest key := rfl

/-- Other values leave the keys as they are. -/
theorem keys_mapValues (f : α → β) (entries : List (String × α)) :
    keys (mapValues f entries) = keys entries := by
  simp [keys, mapValues]

/-- The key that was written holds what was written. -/
@[simp] theorem get?_insert_self (entries : List (String × α)) (key : String) (value : α) :
    get? (insert entries key value) key = some value := by
  induction entries with
  | nil => simp [insert, get?]
  | cons p rest ih =>
    obtain ⟨k, v⟩ := p
    by_cases h : k = key <;> simp [insert, get?, h, ih]

/-- Writing one key leaves what the others hold. -/
theorem get?_insert_of_ne (entries : List (String × α)) {key other : String} (value : α)
    (h : other ≠ key) : get? (insert entries key value) other = get? entries other := by
  induction entries with
  | nil => simp [insert, get?, Ne.symm h]
  | cons p rest ih =>
    obtain ⟨k, v⟩ := p
    by_cases hk : k = key
    · subst hk; simp [insert, get?, Ne.symm h]
    · by_cases ho : k = other <;> simp [insert, get?, hk, ho, h, ih]

/-- A key that is there stays where it is, and a new one goes to the end. -/
theorem keys_insert (entries : List (String × α)) (key : String) (value : α) :
    keys (insert entries key value) =
      if key ∈ keys entries then keys entries else keys entries ++ [key] := by
  induction entries with
  | nil => simp [insert, keys]
  | cons p rest ih =>
    obtain ⟨k, v⟩ := p
    by_cases h : k = key
    · simp [insert, keys, h]
    · have hne : key ≠ k := fun e => h e.symm
      simp only [keys] at ih
      by_cases hm : key ∈ rest.map (·.1)
      · simp [insert, keys, h, hne, ih, hm]
      · simp [insert, keys, h, hne, ih, hm]

/-- Something is stored under exactly the keys. -/
theorem contains_iff_mem_keys (entries : List (String × α)) (key : String) :
    contains entries key = true ↔ key ∈ keys entries := by
  induction entries with
  | nil => simp [contains, keys]
  | cons p rest ih =>
    obtain ⟨k, v⟩ := p
    by_cases h : k = key
    · simp [contains, keys, get?, h]
    · have hne : key ≠ k := fun e => h e.symm
      simp only [contains, keys] at ih
      simp [contains, keys, get?, h, hne, ih]

/-- Erasing drops the key and moves no other. -/
theorem keys_erase (entries : List (String × α)) (key : String) :
    keys (erase entries key) = (keys entries).erase key := by
  induction entries with
  | nil => rfl
  | cons p rest ih =>
    obtain ⟨k, v⟩ := p
    by_cases h : k = key
    · simp [erase, keys, h]
    · simp only [keys] at ih
      simp [erase, keys, h, ih]

theorem distinct_insert {entries : List (String × α)} (h : Distinct entries) (key : String)
    (value : α) : Distinct (insert entries key value) := by
  unfold Distinct at *
  rw [keys_insert]
  split
  · exact h
  · rename_i hk
    rw [List.nodup_append]
    exact ⟨h, by simp, fun a ha b hb => by
      simp at hb; subst hb; exact fun e => hk (e ▸ ha)⟩

theorem distinct_erase {entries : List (String × α)} (h : Distinct entries) (key : String) :
    Distinct (erase entries key) := by
  unfold Distinct at *
  rw [keys_erase]
  exact h.erase key

end ConfigBinding.Keyed
