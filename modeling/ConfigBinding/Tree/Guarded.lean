import ConfigBinding.Tree.Store

/-!
# A store that refuses some keys

A tree behind a guard: writes whose path starts with one of the refused keys fail and change
nothing, and everything else goes to the tree. Values and comments are refused separately.
-/

namespace ConfigBinding

/-- A tree with the keys at which writes are refused. -/
structure GuardedTree where
  tree : Tree
  refused : List String
  refusedComments : List String

namespace GuardedTree

/-- Whether a path starts with one of some keys. -/
def startsIn (keys path : List String) : Bool :=
  match path with
  | [] => false
  | key :: _ => key ∈ keys

/-- Stores a value at a path, unless the guard refuses it. -/
def set (g : GuardedTree) (path : List String) (value : Value) :
    Result (Option Value) × GuardedTree :=
  if startsIn g.refused path then (.error (.ofPath path (.other "rejected")), g)
  else
    let (r, t) := g.tree.set path value
    (r, { g with tree := t })

/-- Stores a comment at a path, unless the guard refuses it. -/
def setComment (g : GuardedTree) (path : List String) (text : String) :
    Result (Option String) × GuardedTree :=
  if startsIn g.refusedComments path then (.error (.ofPath path (.other "comment rejected")), g)
  else
    let (r, t) := g.tree.setComment path text
    (r, { g with tree := t })

instance : Store GuardedTree where
  getRaw g path := Store.getRaw g.tree path
  set := set
  supportsComments _ := true
  setComment := setComment
  getComment g path := Store.getComment g.tree path

end GuardedTree

end ConfigBinding
