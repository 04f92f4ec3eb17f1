import ConfigBinding.Codec.Scalar

/-!
# Codecs of optionals, lists and maps

The native form of a container is built from the native forms of what it contains: nothing becomes
the null marker, a list becomes a list, and a map with strings as keys becomes a map without
comments.
-/

namespace ConfigBinding

namespace Codec

/-- The constraint of a type with one argument. -/
def applied (shape : Shape) (typeName : String) (argument : Codec) : Constraint :=
  ⟨shape, typeName, [argument.constraint]⟩

/-- The name of a type of optionals. -/
def optionName (content : String) : String := "Option<" ++ content ++ ">"

/-- The name of a type of lists. -/
def listName (item : String) : String := "Vec<" ++ item ++ ">"

/-- The name of a type of maps. -/
def mapName (kind : MapKind) (value : String) : String := kind.name ++ "<String, " ++ value ++ ">"

/-- Something or nothing. -/
def option (content : Codec) : Codec where
  name := optionName content.name
  constraint := applied .optional (optionName content.name) content
  toNative o
    | .nothing => .ok .null
    | .just d => content.toNative o d
    | _ => stray
  fromNative o v := if v.isNull then .ok .nothing else .just <$> content.fromNative o v

/-- Lists. -/
def list (item : Codec) : Codec where
  name := listName item.name
  constraint := applied .list (listName item.name) item
  toNative o
    | .list ds => .list <$> ds.mapM (item.toNative o)
    | _ => stray
  fromNative o
    | .list vs => .list <$> vs.mapM (item.fromNative o)
    | v => mismatch v (listName item.name)

/-- Maps with strings as keys. -/
def map (kind : MapKind) (value : Codec) : Codec where
  name := mapName kind value.name
  constraint := applied .map (mapName kind value.name) value
  toNative o
    | .map _ entries => do
      let entries ← entries.mapM fun p => return (p.1, ← value.toNative o p.2)
      return .config ⟨entries, []⟩
    | _ => stray
  fromNative o
    | .config t => do
      let entries ← t.entries.mapM fun p => return (p.1, ← value.fromNative o p.2)
      return .map kind (kind.arrange entries)
    | v => mismatch v (mapName kind value.name)

end Codec

end ConfigBinding
