import ConfigBinding.Proofs.Codec.Reading
import ConfigBinding.Schema.TypeTable

/-!
# The grammar of values on their own

Which values can be read as a type, and as what: `Matches` goes by the type and the value alone and
knows nothing of converters, of constraints or of native forms. With the built-in converters a value
is read as a datum exactly when it matches it (`TypeTable.readValue_iff_matches`).
-/

namespace ConfigBinding

open Numeric

/-- What a value stands for as a type. The null marker stands for nothing where something is
optional, and for itself where any value will do; it stands for no other datum, at any depth. -/
inductive Matches : MemberType → Value → Datum → Prop where
  | bool (b : Bool) : Matches .bool (.bool b) (.bool b)
  /-- A number of any kind that is equal to an integer of the type. -/
  | integer {type : IntType} {v : Value} {n : Int} (hvalue : v.toRat? = some (n : ℚ))
    (hrange : type.contains n = true) : Matches (.integer type) v (.integer n)
  /-- A number of any kind, at its nearest float. -/
  | double {v : Value} {x : Binary64} (hvalue : v.toDouble? = some x) : Matches .double v (.double x)
  | char (c : Char) : Matches .char (.string (String.ofList [c])) (.char c)
  | string (s : String) : Matches .string (.string s) (.string s)
  | dateTime (t : Time.Instant) : Matches .dateTime (.dateTime t) (.dateTime t)
  | dateTimeText {s : String} {t : Time.Instant} (hparse : Time.Instant.parseRfc3339 s = .ok t) :
    Matches .dateTime (.string s) (.dateTime t)
  | value (v : Value) : Matches .value v (.value v)
  | tree (t : Tree) : Matches .tree (.config t) (.tree t)
  | nothing {t : MemberType} : Matches (.option t) .null .nothing
  | just {t : MemberType} {v : Value} {d : Datum} (hnull : v.isNull = false) (h : Matches t v d) :
    Matches (.option t) v (.just d)
  | list {t : MemberType} {items : List Value} {ds : List Datum}
    (hlength : items.length = ds.length) (h : ∀ p ∈ items.zip ds, Matches t p.1 p.2) :
    Matches (.list t) (.list items) (.list ds)
  /-- The keys stay, and a map holds them in an order of its kind. -/
  | map {kind : MapKind} {t : MemberType} {tree : Tree} {entries : List (String × Datum)}
    (hkeys : tree.keys = Keyed.keys entries)
    (h : ∀ p ∈ tree.entries.zip entries, Matches t p.1.2 p.2.2) :
    Matches (.map kind t) (.config tree) (.map kind (kind.arrange entries))

end ConfigBinding
