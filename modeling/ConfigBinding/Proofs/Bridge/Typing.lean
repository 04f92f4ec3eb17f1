import ConfigBinding.Bridge.DataType

/-!
# Data and their types

`Fits` says which data belong to a described type. Of a type's data, those of two kinds of types
cannot be told apart once they are described: nothing, and something that is itself described as
the null marker. `DataType.isFaithful` excludes optionals of such a type, and with them the two
types that stand for any value whatever. The keys of maps have to be strings, since keys are stored
as strings and not read back as anything else.
-/

namespace ConfigBinding.Bridge

open Numeric

/-- The type of a field. -/
def Field.type : Field → DataType
  | ⟨_, type, _⟩ => type

/-- Whether data of the type may be described as the null marker. -/
def DataType.mayBeNull : DataType → Bool
  | .unit | .unitStruct _ | .option _ | .value | .script => true
  | .newtypeStruct _ t => t.mayBeNull
  | _ => false

/-- Whether the type is that of strings. -/
def DataType.isString : DataType → Bool
  | .string => true
  | _ => false

mutual

/-- Whether all data of the type are told apart by their descriptions: what is optional is never
described as the null marker, maps have strings as keys, and the names of fields are distinct. -/
def DataType.isFaithful : DataType → Bool
  | .option t => !t.mayBeNull && t.isFaithful
  | .list t | .array _ t | .newtypeStruct _ t => t.isFaithful
  | .tuple ts | .tupleStruct _ ts => faithfulItems ts
  | .map k t => k.isString && t.isFaithful
  | .struct _ _ fields => decide (fields.map Field.name).Nodup && faithfulFields fields
  | .enum _ variants => faithfulVariants variants
  | .value | .script => false
  | _ => true

/-- Whether all components of a tuple are faithful. -/
def faithfulItems : List DataType → Bool
  | [] => true
  | t :: ts => t.isFaithful && faithfulItems ts

/-- Whether the types of all fields are faithful. -/
def faithfulFields : List Field → Bool
  | [] => true
  | ⟨_, t, _⟩ :: fields => t.isFaithful && faithfulFields fields

/-- Whether the contents of all variants are faithful. -/
def faithfulVariants : List Variant → Bool
  | [] => true
  | .unit _ :: rest => faithfulVariants rest
  | .newtype _ t :: rest => t.isFaithful && faithfulVariants rest
  | .tuple _ ts :: rest => faithfulItems ts && faithfulVariants rest
  | .struct _ fields :: rest =>
    decide (fields.map Field.name).Nodup && faithfulFields fields && faithfulVariants rest

end

/-- Which data belong to a described type. Components and fields stand in the order of the type; a
map is in ascending order of its keys; and a variant is the first one of its name. -/
inductive Fits : DataType → Data → Prop where
  | unit : Fits .unit .unit
  | bool (b : Bool) : Fits .bool (.bool b)
  | integer {type : IntType} {n : Int} (h : type.contains n = true) :
    Fits (.integer type) (.integer n)
  | single (x : Binary32) : Fits .single (.single x)
  | double (x : Binary64) : Fits .double (.double x)
  | char (c : Char) : Fits .char (.char c)
  | string (s : String) : Fits .string (.string s)
  | none {t : DataType} : Fits (.option t) .none
  | some {t : DataType} {d : Data} (h : Fits t d) : Fits (.option t) (.some d)
  | list {t : DataType} {ds : List Data} (h : ∀ d ∈ ds, Fits t d) : Fits (.list t) (.seq ds)
  | array {n : Nat} {t : DataType} {ds : List Data} (hlength : ds.length = n)
    (h : ∀ d ∈ ds, Fits t d) : Fits (.array n t) (.seq ds)
  | tuple {ts : List DataType} {ds : List Data} (hlength : ts.length = ds.length)
    (h : ∀ p ∈ ts.zip ds, Fits p.1 p.2) : Fits (.tuple ts) (.seq ds)
  | map {k t : DataType} {entries : List (Data × Data)}
    (horder : entries.Pairwise fun p q => k.keyBefore p.1 q.1 = true)
    (hkeys : ∀ p ∈ entries, Fits k p.1) (hvalues : ∀ p ∈ entries, Fits t p.2) :
    Fits (.map k t) (.map entries)
  | unitStruct {name : String} : Fits (.unitStruct name) .unit
  | newtypeStruct {name : String} {t : DataType} {d : Data} (h : Fits t d) :
    Fits (.newtypeStruct name t) d
  | tupleStruct {name : String} {ts : List DataType} {ds : List Data}
    (hlength : ts.length = ds.length) (h : ∀ p ∈ ts.zip ds, Fits p.1 p.2) :
    Fits (.tupleStruct name ts) (.seq ds)
  | struct {name : String} {closed : Bool} {fields : List Field} {ds : List (String × Data)}
    (hnames : fields.map Field.name = ds.map Prod.fst)
    (h : ∀ p ∈ fields.zip ds, Fits p.1.type p.2.2) : Fits (.struct name closed fields) (.record ds)
  | unitVariant {name variant : String} {variants : List Variant}
    (hfind : variants.find? (·.name = variant) = some (.unit variant)) :
    Fits (.enum name variants) (.variant variant .unit)
  | newtypeVariant {name variant : String} {variants : List Variant} {t : DataType} {d : Data}
    (hfind : variants.find? (·.name = variant) = some (.newtype variant t)) (h : Fits t d) :
    Fits (.enum name variants) (.variant variant d)
  | tupleVariant {name variant : String} {variants : List Variant} {ts : List DataType}
    {ds : List Data} (hfind : variants.find? (·.name = variant) = some (.tuple variant ts))
    (hlength : ts.length = ds.length) (h : ∀ p ∈ ts.zip ds, Fits p.1 p.2) :
    Fits (.enum name variants) (.variant variant (.seq ds))
  | structVariant {name variant : String} {variants : List Variant} {fields : List Field}
    {ds : List (String × Data)}
    (hfind : variants.find? (·.name = variant) = some (.struct variant fields))
    (hnames : fields.map Field.name = ds.map Prod.fst)
    (h : ∀ p ∈ fields.zip ds, Fits p.1.type p.2.2) :
    Fits (.enum name variants) (.variant variant (.record ds))
  | value (v : Value) : Fits .value (.value v)
  | script (s : Script) : Fits .script (.script s)

/-! ## The parts of faithful types -/

theorem faithful_of_mem_items {ts : List DataType} (h : faithfulItems ts = true) {t : DataType}
    (hmem : t ∈ ts) : t.isFaithful = true := by
  induction ts with
  | nil => simp at hmem
  | cons t' rest ih =>
    rw [faithfulItems, Bool.and_eq_true] at h
    rcases List.mem_cons.mp hmem with rfl | hmem
    · exact h.1
    · exact ih h.2 hmem

theorem faithful_of_mem_fields {fields : List Field} (h : faithfulFields fields = true)
    {field : Field} (hmem : field ∈ fields) : field.type.isFaithful = true := by
  induction fields with
  | nil => simp at hmem
  | cons field' rest ih =>
    obtain ⟨name, t, default⟩ := field'
    rw [faithfulFields, Bool.and_eq_true] at h
    rcases List.mem_cons.mp hmem with rfl | hmem
    · exact h.1
    · exact ih h.2 hmem

/-- A variant of faithful variants is faithful on its own. -/
theorem faithful_of_mem_variants {variants : List Variant} (h : faithfulVariants variants = true)
    {variant : Variant} (hmem : variant ∈ variants) : faithfulVariants [variant] = true := by
  induction variants with
  | nil => simp at hmem
  | cons variant' rest ih =>
    have hsplit : faithfulVariants [variant'] = true ∧ faithfulVariants rest = true := by
      cases variant' <;> simp_all [faithfulVariants]
    rcases List.mem_cons.mp hmem with rfl | hmem
    · exact hsplit.1
    · exact ih hsplit.2 hmem

end ConfigBinding.Bridge
