import ConfigBinding.Tree.Entry
import ConfigBinding.Tree.Path

/-!
# Where configurations are kept

`Store` is what reading and writing objects needs of the place that holds a configuration: entries
by path, and comments where the place has them. A failing write may change the store, as far as
this interface says; `Tree` is the store whose failing writes change nothing.
-/

namespace ConfigBinding

/-- A place that holds a configuration. -/
class Store (σ : Type) where
  /-- What the store holds at a path. -/
  getRaw : σ → List String → Entry
  /-- Stores a value at a path, and returns the value that was there. -/
  set : σ → List String → Value → Result (Option Value) × σ
  /-- Whether the store keeps comments. -/
  supportsComments : σ → Bool
  /-- Stores a comment at a path, and returns the comment that was there. -/
  setComment : σ → List String → String → Result (Option String) × σ
  /-- The comment at a path. -/
  getComment : σ → List String → Option String

/-- Whether a store holds anything at a path, the null marker included. -/
def Store.contains {σ : Type} [Store σ] (store : σ) (path : List String) : Bool :=
  !(Store.getRaw store path).isAbsent

namespace Tree

/-- The outcome of an edit as the outcome of a step on the tree. -/
def outcome {α : Type} (path : List String) : Except PathFault α × Tree → Result α × Tree :=
  Prod.map (Except.mapError (.ofPath path)) id

/-- Stores a value at a path. -/
def set (t : Tree) (path : List String) (value : Value) : Result (Option Value) × Tree :=
  outcome path (editAt (exchange value) path t)

/-- Stores a comment at a path. -/
def setComment (t : Tree) (path : List String) (text : String) : Result (Option String) × Tree :=
  outcome path (editAt (exchangeComment text) path t)

instance : Store Tree where
  getRaw t path := Entry.of (t.lookup? path)
  set := set
  supportsComments _ := true
  setComment := setComment
  getComment t path := t.lookupComment? path

end Tree

end ConfigBinding
