import ConfigBinding.Tree.Store

/-!
# A store with sorted keys

A store whose top keys are kept in ascending order, and which has no comments of its own. Below
the top the maps are those of `Tree`, so a value that is a map keeps its order and its comments.
-/

namespace ConfigBinding

/-- A map from keys to values, kept in ascending order of the keys. -/
structure SortedTree where
  entries : List (String × Value)
  ascending : entries.Pairwise fun p q => p.1 < q.1

namespace SortedTree

/-- Stores a value under a key, at the place that the order asks for. -/
def insertEntry : List (String × Value) → String → Value → List (String × Value)
  | [], key, value => [(key, value)]
  | (k, v) :: rest, key, value =>
    if k = key then (k, value) :: rest
    else if key < k then (key, value) :: (k, v) :: rest
    else (k, v) :: insertEntry rest key value

theorem mem_insertEntry {entries : List (String × Value)} {key : String} {value : Value}
    {p : String × Value} (h : p ∈ insertEntry entries key value) :
    p = (key, value) ∨ p ∈ entries := by
  induction entries with
  | nil => exact .inl (List.mem_singleton.mp h)
  | cons q rest ih =>
    obtain ⟨k, v⟩ := q
    rw [insertEntry] at h
    by_cases hk : k = key
    · rw [if_pos hk, hk] at h
      exact (List.mem_cons.mp h).imp_right (List.mem_cons_of_mem _)
    · rw [if_neg hk] at h
      by_cases hlt : key < k
      · rw [if_pos hlt] at h
        exact List.mem_cons.mp h
      · rw [if_neg hlt] at h
        rcases List.mem_cons.mp h with rfl | h
        · exact .inr List.mem_cons_self
        · exact (ih h).imp_right (List.mem_cons_of_mem _)

/-- Keys that ascend still do when another one has found its place. -/
theorem ascending_insertEntry {entries : List (String × Value)}
    (h : entries.Pairwise fun p q => p.1 < q.1) (key : String) (value : Value) :
    (insertEntry entries key value).Pairwise fun p q => p.1 < q.1 := by
  induction entries with
  | nil => exact List.pairwise_singleton _ _
  | cons q rest ih =>
    obtain ⟨k, v⟩ := q
    obtain ⟨hfirst, hrest⟩ := List.pairwise_cons.mp h
    rw [insertEntry]
    by_cases hk : k = key
    · rw [if_pos hk]
      exact List.pairwise_cons.mpr ⟨hfirst, hrest⟩
    · rw [if_neg hk]
      by_cases hlt : key < k
      · rw [if_pos hlt]
        refine List.pairwise_cons.mpr ⟨?_, h⟩
        intro p hp
        rcases List.mem_cons.mp hp with rfl | hp
        · exact hlt
        · exact String.lt_trans hlt (hfirst p hp)
      · rw [if_neg hlt]
        refine List.pairwise_cons.mpr ⟨?_, ih hrest⟩
        intro p hp
        rcases mem_insertEntry hp with rfl | hp
        · exact ((Std.lt_trichotomy k key).resolve_right (not_or.mpr ⟨hk, hlt⟩))
        · exact hfirst p hp

/-- The map without entries. -/
def empty : SortedTree := ⟨[], .nil⟩

/-- The value under a key. -/
def get? (t : SortedTree) (key : String) : Option Value := Keyed.get? t.entries key

/-- Whether a key has an entry. -/
def contains (t : SortedTree) (key : String) : Bool := Keyed.contains t.entries key

/-- Stores a value under a key. -/
def insert (t : SortedTree) (key : String) (value : Value) : SortedTree :=
  ⟨insertEntry t.entries key value, ascending_insertEntry t.ascending key value⟩

/-- The sorted map of some pairs; a repeated key takes its last value. -/
def ofPairs (pairs : List (String × Value)) : SortedTree :=
  pairs.foldl (fun t p => t.insert p.1 p.2) empty

/-- The map under a key. -/
def sub? (t : SortedTree) (key : String) : Option Tree := (t.get? key).bind Value.config?

/-- Puts an empty map under a key that has no entry. -/
def withMap (t : SortedTree) (key : String) : SortedTree :=
  if t.contains key then t else t.insert key (.config .empty)

/-- The value at a path. -/
def lookup? (t : SortedTree) : List String → Option Value
  | [] => none
  | [key] => t.get? key
  | key :: rest => (t.sub? key).bind (Tree.lookup? rest)

/-- Stores a value at a path. A map below the top reports its own errors, whose path starts
below the first key. -/
def set (t : SortedTree) (path : List String) (value : Value) :
    Result (Option Value) × SortedTree :=
  match path with
  | [] => (.error (.ofPath path .empty), t)
  | [key] => (.ok (t.get? key), t.insert key value)
  | key :: rest =>
    let t := t.withMap key
    match t.sub? key with
    | none => (.error (.ofPath path (.notConfig key)), t)
    | some sub =>
      let (r, sub) := sub.set rest value
      (r, t.insert key (.config sub))

instance : Store SortedTree where
  getRaw t path := Entry.of (t.lookup? path)
  set := set
  supportsComments _ := false
  setComment t _ _ := (.ok none, t)
  getComment _ _ := none

end SortedTree

end ConfigBinding
