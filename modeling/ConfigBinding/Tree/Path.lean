import ConfigBinding.Error
import ConfigBinding.Tree.Basic

/-!
# Paths into a tree

A path is a list of keys, each leading from a map into a map below it, the last one to an entry or
a comment. Writing makes the maps that are missing on the way as it goes down, before it knows
whether it arrives; it fails where a value that is no map stands in the way.
-/

namespace ConfigBinding.Tree

/-- The map under a key. -/
def sub? (t : Tree) (key : String) : Option Tree := (t.get? key).bind Value.config?

/-- Puts an empty map under a key that has no entry. -/
def withMap (t : Tree) (key : String) : Tree :=
  if t.contains key then t else t.insert key (.config empty)

/-- Reads at the path's last key, in the map that the other keys lead to. -/
def readAt {α : Type} (read : Tree → String → Option α) : List String → Tree → Option α
  | [], _ => none
  | [key], t => read t key
  | key :: rest, t => (t.sub? key).bind (readAt read rest)

/-- The value at a path. -/
def lookup? (path : List String) (t : Tree) : Option Value := readAt get? path t

/-- The comment at a path. -/
def lookupComment? (path : List String) (t : Tree) : Option String := readAt comment? path t

/-- Edits the map that the path's last key belongs to, given that key. Returns what the edit
returns, and the tree, which holds what was made on the way also when the walk fails. -/
def editAt {α : Type} (edit : String → Tree → α × Tree) :
    List String → Tree → Except PathFault α × Tree
  | [], t => (.error .empty, t)
  | [key], t => (.ok (edit key t).1, (edit key t).2)
  | key :: rest, t =>
    let t := t.withMap key
    match t.sub? key with
    | none => (.error (.notConfig key), t)
    | some sub =>
      let (r, sub) := editAt edit rest sub
      (r, t.insert key (.config sub))

/-- Stores a value under a key, and returns the value that was there. -/
def exchange (value : Value) (key : String) (t : Tree) : Option Value × Tree :=
  (t.get? key, t.insert key value)

/-- Stores a comment for a key, and returns the comment that was there. -/
def exchangeComment (text : String) (key : String) (t : Tree) : Option String × Tree :=
  (t.comment? key, t.insertComment key text)

end ConfigBinding.Tree
