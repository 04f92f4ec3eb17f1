import ConfigBinding.Value.Basic

/-!
# Maps of a configuration

The operations on a single map. Entries and comments are two keyed lists side by side; only
removing a key touches both.
-/

namespace ConfigBinding.Tree

/-- The map with some entries and no comments; a repeated key keeps its first position and its
last value. -/
def ofPairs (pairs : List (String × Value)) : Tree := ⟨Keyed.ofList pairs, []⟩

/-- The keys of the entries, in their order. -/
def keys (t : Tree) : List String := Keyed.keys t.entries

/-- The values, in the order of their keys. -/
def values (t : Tree) : List Value := t.entries.map (·.2)

/-- The number of entries. -/
def size (t : Tree) : Nat := t.entries.length

/-- Whether the map has no entry; comments do not count. -/
def isEmpty (t : Tree) : Bool := t.entries.isEmpty

/-- The value under a key. -/
def get? (t : Tree) (key : String) : Option Value := Keyed.get? t.entries key

/-- Whether a key has an entry. -/
def contains (t : Tree) (key : String) : Bool := Keyed.contains t.entries key

/-- Stores a value under a key. The comment of the key stays. -/
def insert (t : Tree) (key : String) (value : Value) : Tree :=
  ⟨Keyed.insert t.entries key value, t.comments⟩

/-- Drops the entry and the comment of a key. -/
def erase (t : Tree) (key : String) : Tree :=
  ⟨Keyed.erase t.entries key, Keyed.erase t.comments key⟩

/-- The comment of a key. -/
def comment? (t : Tree) (key : String) : Option String := Keyed.get? t.comments key

/-- Stores a comment for a key, which need not have an entry. -/
def insertComment (t : Tree) (key text : String) : Tree :=
  ⟨t.entries, Keyed.insert t.comments key text⟩

/-- Drops the comment of a key. -/
def eraseComment (t : Tree) (key : String) : Tree :=
  ⟨t.entries, Keyed.erase t.comments key⟩

/-- Writes over the value of a key that has one; a key without an entry stays without. -/
def replace (t : Tree) (key : String) (value : Value) : Tree :=
  if t.contains key then t.insert key value else t

/-- Writes a value over every entry. -/
def fill (t : Tree) (value : Value) : Tree :=
  ⟨Keyed.mapValues (fun _ => value) t.entries, t.comments⟩

/-- Stores a value in the map under a key, and returns the value that was there; `none` when the key
does not hold a map. -/
def insertBelow? (t : Tree) (key below : String) (value : Value) : Option (Option Value × Tree) :=
  match t.get? key with
  | some (.config sub) => some (sub.get? below, t.insert key (.config (sub.insert below value)))
  | _ => none

/-- The entries alone. -/
def withoutComments (t : Tree) : Tree := ⟨t.entries, []⟩

end ConfigBinding.Tree
