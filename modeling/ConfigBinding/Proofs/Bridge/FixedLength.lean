import ConfigBinding.Proofs.Bridge.Parts

/-!
# Lists that are too long

A type with a fixed number of components refuses a list that is too short, at any depth. Of a list
that is too long it reads as many items as it has components, and what follows is dropped: cutting
all such lists within a value to their length (`DataType.trim`) changes nothing about how the value
is read, not even how it fails (`dropsSurplus`). A structure that is read from a list by position
passes over what follows its last field in the same way, and that is cut with the rest.
-/

namespace ConfigBinding.Bridge

open Numeric

mutual

/-- The value without the items that reading the type passes over. -/
def DataType.trim : DataType → Value → Value
  | .option t, v => t.trim v
  | .newtypeStruct _ t, v => t.trim v
  | .list t, .list items => .list (items.map fun v => t.trim v)
  | .array n t, .list items => .list ((items.take n).map fun v => t.trim v)
  | .tuple ts, .list items => .list (trimItems ts items)
  | .tupleStruct _ ts, .list items => .list (trimItems ts items)
  | .map _ t, .config tree =>
    .config ⟨Keyed.mapValues (fun v => t.trim v) tree.entries, tree.comments⟩
  | .struct _ _ fields, .list items => .list (trimFields fields items)
  | .struct _ _ fields, .config tree =>
    .config ⟨tree.entries.map fun p => (p.1, trimField p.1 p.2 fields), tree.comments⟩
  | .enum _ variants, .config ⟨[(name, content)], comments⟩ =>
    .config ⟨[(name, trimVariant name content variants)], comments⟩
  | _, v => v

/-- As many items as there are types, each without what its type passes over. -/
def trimItems : List DataType → List Value → List Value
  | t :: ts, v :: rest => t.trim v :: trimItems ts rest
  | _, _ => []

/-- As many items as there are fields, each without what its field passes over. -/
def trimFields : List Field → List Value → List Value
  | field :: fields, v :: rest => field.trim v :: trimFields fields rest
  | _, _ => []

/-- The value without what the field with this name passes over. -/
def trimField (name : String) (v : Value) : List Field → Value
  | [] => v
  | field :: rest => if field.name = name then field.trim v else trimField name v rest

/-- The value of a field without what its type passes over. -/
def Field.trim : Field → Value → Value
  | ⟨_, t, _⟩, v => t.trim v

/-- The value without what the variant with this name passes over. -/
def trimVariant (name : String) (content : Value) : List Variant → Value
  | [] => content
  | variant :: rest =>
    if variant.name = name then variant.trim content else trimVariant name content rest

/-- The content of a variant without what reading it passes over. -/
def Variant.trim : Variant → Value → Value
  | .newtype _ t, v => t.trim v
  | .tuple _ ts, .list items => .list (trimItems ts items)
  | .struct _ fields, .config tree =>
    .config ⟨tree.entries.map fun p => (p.1, trimField p.1 p.2 fields), tree.comments⟩
  | _, v => v

end

theorem trimItems_eq_zipWith (ts : List DataType) (items : List Value) :
    trimItems ts items = List.zipWith DataType.trim ts items := by
  induction ts generalizing items with
  | nil => rfl
  | cons t ts ih =>
    cases items with
    | nil => rfl
    | cons v rest => rw [trimItems, ih, List.zipWith_cons_cons]

theorem trimItems_replicate (n : Nat) (t : DataType) (items : List Value) :
    trimItems (List.replicate n t) items = (items.take n).map fun v => t.trim v := by
  induction n generalizing items with
  | zero => rfl
  | succ n ih =>
    cases items with
    | nil => rfl
    | cons v rest => rw [List.replicate_succ, trimItems, ih, List.take_succ_cons, List.map_cons]

theorem Field.trim_eq (field : Field) (v : Value) : field.trim v = field.type.trim v := by
  cases field
  rfl

theorem trimFields_eq_zipWith (fields : List Field) (items : List Value) :
    trimFields fields items = List.zipWith (fun field v => field.type.trim v) fields items := by
  induction fields generalizing items with
  | nil => rfl
  | cons field fields ih =>
    cases items with
    | nil => rfl
    | cons v rest => rw [trimFields, field.trim_eq, ih, List.zipWith_cons_cons]

theorem trimField_eq (name : String) (v : Value) (fields : List Field) :
    trimField name v fields = (fields.find? (·.name = name)).elim v (·.type.trim v) := by
  induction fields with
  | nil => rfl
  | cons field rest ih =>
    by_cases hname : field.name = name
    · rw [trimField, if_pos hname, field.trim_eq, List.find?_cons_of_pos (by simpa using hname),
        Option.elim_some]
    · rw [trimField, if_neg hname, ih, List.find?_cons_of_neg (by simpa using hname)]

theorem trimVariant_eq (name : String) (content : Value) (variants : List Variant) :
    trimVariant name content variants
      = (variants.find? (·.name = name)).elim content (·.trim content) := by
  induction variants with
  | nil => rfl
  | cons variant rest ih =>
    by_cases hname : variant.name = name
    · rw [trimVariant, if_pos hname, List.find?_cons_of_pos (by simpa using hname),
        Option.elim_some]
    · rw [trimVariant, if_neg hname, ih, List.find?_cons_of_neg (by simpa using hname)]

/-- No value becomes null, and none that is null becomes another one. -/
theorem isNull_trim : ∀ (t : DataType) (v : Value), (t.trim v).isNull = v.isNull
  | .option t, v => isNull_trim t v
  | .newtypeStruct _ t, v => isNull_trim t v
  | .enum _ _, .config ⟨[], _⟩ => rfl
  | .enum _ _, .config ⟨[_], _⟩ => rfl
  | .enum _ _, .config ⟨_ :: _ :: _, _⟩ => rfl
  | .enum _ _, .null | .enum _ _, .bool _ | .enum _ _, .number _ | .enum _ _, .string _
  | .enum _ _, .list _ | .enum _ _, .dateTime _ | .enum _ _, .bigInt _ => rfl
  | .list _, v | .array _ _, v | .tuple _, v | .tupleStruct _ _, v | .map _ _, v
  | .struct _ _ _, v => by cases v <;> rfl
  | .unit, _ | .bool, _ | .integer _, _ | .single, _ | .double, _ | .char, _ | .string, _
  | .unitStruct _, _ | .value, _ | .script, _ => rfl

/-! ## What is dropped does not count -/

/-- The type is read in the same way with and without what it passes over. -/
def DataType.Trims (t : DataType) : Prop := ∀ v, t.decode (t.trim v) = t.decode v

/-- So is the content of a variant. -/
def Variant.Trims (variant : Variant) : Prop :=
  ∀ typeName reader v, variantReaders typeName [variant] = [reader] →
    reader.read (some (variant.trim v)) = reader.read (some v)

theorem readComponents_trimItems {ts : List DataType} (h : ∀ t ∈ ts, t.Trims) (expected : String)
    (index : Nat) (items : List Value) :
    readComponents expected index (itemReaders ts) (trimItems ts items)
      = readComponents expected index (itemReaders ts) items := by
  induction ts generalizing index items with
  | nil => rfl
  | cons t ts ih =>
    obtain ⟨ht, hts⟩ := List.forall_mem_cons.mp h
    cases items with
    | nil => rfl
    | cons v rest => rw [trimItems, itemReaders, readComponents, readComponents, ht v, ih hts]

theorem readPositional_trimFields {fields : List Field} (h : ∀ field ∈ fields, field.type.Trims)
    (expected : String) (index : Nat) (items : List Value) :
    readPositional expected index (fieldReaders fields) (trimFields fields items)
      = readPositional expected index (fieldReaders fields) items := by
  induction fields generalizing index items with
  | nil => rfl
  | cons field fields ih =>
    obtain ⟨hfield, hfields⟩ := List.forall_mem_cons.mp h
    cases items with
    | nil => rfl
    | cons v rest =>
      obtain ⟨reader, hcons, -, hread⟩ := fieldReaders_cons field fields
      have hrest := ih hfields (index + 1) rest
      rw [hcons, trimFields, field.trim_eq]
      simp only [readPositional, hread, hfield v, pure_bind, hrest]

/-- Only the entries of fields are looked at, and these as their types read them. -/
theorem readNamed_trimField {fields : List Field} (h : ∀ field ∈ fields, field.type.Trims)
    (closed : Bool) (entries : List (String × Value)) :
    readNamed closed (fieldReaders fields) (entries.map fun p => (p.1, trimField p.1 p.2 fields))
      = readNamed closed (fieldReaders fields) entries := by
  have hentries : readEntries closed (fieldReaders fields)
        (entries.map fun p => (p.1, trimField p.1 p.2 fields))
      = readEntries closed (fieldReaders fields) entries := by
    induction entries with
    | nil => rfl
    | cons p rest ih =>
      obtain ⟨k, v⟩ := p
      rw [List.map_cons, readEntries, readEntries, ih]
      cases hfind : fields.find? (·.name = k) with
      | none => rw [find?_fieldReaders_none hfind]
      | some field =>
        obtain ⟨reader, hreader, hread⟩ := find?_fieldReaders hfind
        rw [hreader, trimField_eq, hfind, Option.elim_some]
        simp only [hread, h field (List.mem_of_find?_eq_some hfind) v]
  rw [readNamed, hentries]
  rfl

theorem readMap_trim {t : DataType} (h : t.Trims) (before : Data → Data → Bool)
    (key : Value → Result Data) (read : List (Data × Data)) (entries : List (String × Value)) :
    readMap before key (fun v => t.decode v) read (Keyed.mapValues (fun v => t.trim v) entries)
      = readMap before key (fun v => t.decode v) read entries := by
  induction entries generalizing read with
  | nil => rfl
  | cons p rest ih =>
    obtain ⟨k, v⟩ := p
    have hrest : ∀ read, readMap before key (fun v => t.decode v) read
          (rest.map fun p => (p.1, t.trim p.2))
        = readMap before key (fun v => t.decode v) read rest := ih
    rw [Keyed.mapValues, List.map_cons, readMap, readMap, h v]
    simp only [hrest]

variable {t t' : DataType} {ts : List DataType} {fields : List Field} {variants : List Variant}
  {v v' : Value} {items : List Value}

theorem option_trims (h : t.Trims) : (DataType.option t).Trims := by
  intro v
  rw [DataType.trim, DataType.decode, DataType.decode, isNull_trim, h v]

theorem list_trims (h : t.Trims) : (DataType.list t).Trims
  | .list items => by
    have hitems : (items.map fun v => t.trim v).mapM (fun v => t.decode v)
        = items.mapM fun v => t.decode v := by
      simp only [List.mapM_map, Function.comp_def, h _]
    exact congrArg (Data.seq <$> ·) hitems
  | .config _ | .null | .bool _ | .number _ | .string _ | .dateTime _ | .bigInt _ => rfl

theorem array_trims (h : t.Trims) (n : Nat) : (DataType.array n t).Trims
  | .list items => by
    have hreplicate : ∀ t' ∈ List.replicate n t, t'.Trims := fun t' hmem =>
      List.eq_of_mem_replicate hmem ▸ h
    rw [DataType.trim, DataType.decode, DataType.decode, ← itemReaders_replicate,
      ← trimItems_replicate]
    exact congrArg (Data.seq <$> ·) (readComponents_trimItems hreplicate _ 0 items)
  | .config _ | .null | .bool _ | .number _ | .string _ | .dateTime _ | .bigInt _ => rfl

theorem tuple_trims (h : ∀ t ∈ ts, t.Trims) : (DataType.tuple ts).Trims
  | .list items => congrArg (Data.seq <$> ·) (readComponents_trimItems h _ 0 items)
  | .config _ | .null | .bool _ | .number _ | .string _ | .dateTime _ | .bigInt _ => rfl

theorem tupleStruct_trims (h : ∀ t ∈ ts, t.Trims) (name : String) :
    (DataType.tupleStruct name ts).Trims
  | .list items => congrArg (Data.seq <$> ·) (readComponents_trimItems h _ 0 items)
  | .config _ | .null | .bool _ | .number _ | .string _ | .dateTime _ | .bigInt _ => rfl

theorem map_trims (h : t.Trims) (k : DataType) : (DataType.map k t).Trims
  -- the keys are texts, which are not cut
  | .config tree => congrArg (Data.map <$> ·) (readMap_trim h _ _ [] tree.entries)
  | .list _ | .null | .bool _ | .number _ | .string _ | .dateTime _ | .bigInt _ => rfl

theorem struct_trims (h : ∀ field ∈ fields, field.type.Trims) (name : String) (closed : Bool) :
    (DataType.struct name closed fields).Trims
  | .list items => congrArg (Data.record <$> ·) (readPositional_trimFields h _ 0 items)
  | .config tree => readNamed_trimField h closed tree.entries
  | .null | .bool _ | .number _ | .string _ | .dateTime _ | .bigInt _ => rfl

theorem newtypeVariant_trims (h : t.Trims) {name : String} :
    (Variant.newtype name t).Trims := by
  intro typeName reader v hreader
  obtain rfl := List.singleton_inj.mp hreader
  exact h v

theorem tupleVariant_trims (h : ∀ t ∈ ts, t.Trims) {name : String} :
    (Variant.tuple name ts).Trims := by
  intro typeName reader v hreader
  obtain rfl := List.singleton_inj.mp hreader
  cases v with
  | list items => exact congrArg (Data.seq <$> ·) (readComponents_trimItems h _ 0 items)
  | _ => rfl

theorem structVariant_trims (h : ∀ field ∈ fields, field.type.Trims) {name : String} :
    (Variant.struct name fields).Trims := by
  intro typeName reader v hreader
  obtain rfl := List.singleton_inj.mp hreader
  cases v with
  | config tree => exact readNamed_trimField h false tree.entries
  | _ => rfl

/-- An enumeration reads the content of one variant. -/
theorem enum_trims (h : ∀ variant ∈ variants, variant.Trims)
    (name : String) : (DataType.enum name variants).Trims
  | .config ⟨[(variant, content)], comments⟩ => by
    rw [DataType.trim, trimVariant_eq]
    cases hfind : variants.find? (·.name = variant) with
    -- no such variant: the content is neither cut nor looked at
    | none => rfl
    | some found =>
      obtain ⟨reader, hreader, hdecode⟩ := decode_enum name hfind
      have hread := h found (List.mem_of_find?_eq_some hfind) name reader content hreader
      rw [Option.elim_some, hdecode _ _ rfl, hdecode _ _ rfl, hread]
  | .config ⟨[], _⟩ => rfl
  | .config ⟨_ :: _ :: _, _⟩ => rfl
  | .null | .bool _ | .number _ | .string _ | .list _ | .dateTime _ | .bigInt _ => rfl

mutual

/-- Every type is read in the same way with and without what it passes over. -/
theorem trims : ∀ t : DataType, t.Trims
  | .option t => option_trims (trims t)
  | .newtypeStruct _ t => trims t
  | .list t => list_trims (trims t)
  | .array n t => array_trims (trims t) n
  | .tuple ts => tuple_trims (trims_items ts)
  | .tupleStruct name ts => tupleStruct_trims (trims_items ts) name
  | .map k t => map_trims (trims t) k
  | .struct name closed fields => struct_trims (trims_fields fields) name closed
  | .enum name variants => enum_trims (trims_variants variants) name
  | .unit | .bool | .integer _ | .single | .double | .char | .string | .unitStruct _ | .value
  | .script => fun _ => rfl

theorem trims_items : ∀ ts : List DataType, ∀ t ∈ ts, t.Trims
  | [] => nofun
  | t :: rest => List.forall_mem_cons.mpr ⟨trims t, trims_items rest⟩

theorem trims_fields : ∀ fields : List Field, ∀ field ∈ fields, field.type.Trims
  | [] => nofun
  | ⟨_, t, _⟩ :: rest => List.forall_mem_cons.mpr ⟨trims t, trims_fields rest⟩

theorem trims_variants : ∀ variants : List Variant, ∀ variant ∈ variants, variant.Trims
  | [] => nofun
  | variant :: rest => List.forall_mem_cons.mpr ⟨trims_variant variant, trims_variants rest⟩

theorem trims_variant : ∀ variant : Variant, variant.Trims
  | .unit _ => fun _ _ _ _ => rfl
  | .newtype _ t => newtypeVariant_trims (trims t)
  | .tuple _ ts => tupleVariant_trims (trims_items ts)
  | .struct _ fields => structVariant_trims (trims_fields fields)

end

/-! ## What is left -/

/-- Of a variant only the content is cut. -/
theorem trim_enum_eq {name variant : String} {content : Value}
    {comments : List (String × String)} : ∀ {v : Value},
    (DataType.enum name variants).trim v = .config ⟨[(variant, content)], comments⟩ →
    ∃ content', v = .config ⟨[(variant, content')], comments⟩
      ∧ content = trimVariant variant content' variants
  | .config ⟨[(_, content')], _⟩, h => by
    cases h
    exact ⟨content', rfl, rfl⟩
  | .config ⟨[], _⟩, h | .config ⟨_ :: _ :: _, _⟩, h | .null, h | .bool _, h | .number _, h
  | .string _, h | .list _, h | .dateTime _, h | .bigInt _, h => nomatch h

/-- A list of fixed length within the cut value is the front of one within the value. -/
theorem FixedList.of_trim (h : FixedList t (t.trim v) ts items) :
    ∃ items', FixedList t v ts items' ∧ items = trimItems ts items' := by
  generalize hw : t.trim v = w at h
  cases h with
  | array =>
    cases v with
    | list items' =>
      cases hw
      exact ⟨items', .array, (trimItems_replicate ..).symm⟩
    | _ => cases hw
  | tuple | tupleStruct =>
    cases v with
    | list items' =>
      cases hw
      exact ⟨items', by constructor, rfl⟩
    | _ => cases hw
  | tupleVariant hfind =>
    obtain ⟨content, rfl, hcontent⟩ := trim_enum_eq hw
    rw [trimVariant_eq, hfind, Option.elim_some] at hcontent
    cases content with
    | list items' =>
      cases hcontent
      exact ⟨items', .tupleVariant hfind, rfl⟩
    | _ => cases hcontent

theorem NamedFields.of_trim {entries : List (String × Value)}
    (h : NamedFields t (t.trim v) fields entries) :
    ∃ entries', NamedFields t v fields entries'
      ∧ entries = entries'.map fun p => (p.1, trimField p.1 p.2 fields) := by
  generalize hw : t.trim v = w at h
  cases h with
  | struct =>
    cases v with
    | config tree =>
      cases hw
      exact ⟨tree.entries, .struct, rfl⟩
    | _ => cases hw
  | structVariant hfind =>
    obtain ⟨content, rfl, hcontent⟩ := trim_enum_eq hw
    rw [trimVariant_eq, hfind, Option.elim_some] at hcontent
    cases content with
    | config tree =>
      cases hcontent
      exact ⟨tree.entries, .structVariant hfind, rfl⟩
    | _ => cases hcontent

/-- The parts of the cut value are the parts of the value, cut themselves. -/
theorem Part.of_trim (h : Part t (t.trim v) t' v') :
    ∃ w, Part t v t' w ∧ v' = t'.trim w := by
  generalize hw : t.trim v = w at h
  cases h with
  | option hnull =>
    obtain rfl : t'.trim v = v' := hw
    exact ⟨v, .option (isNull_trim t' v ▸ hnull), rfl⟩
  | newtypeStruct => exact ⟨v, .newtypeStruct, hw.symm⟩
  | item hmem =>
    cases v with
    | list items =>
      cases hw
      obtain ⟨w, hmem', rfl⟩ := List.mem_map.mp hmem
      exact ⟨w, .item hmem', rfl⟩
    | _ => cases hw
  | component hfixed hmem =>
    subst hw
    obtain ⟨items, hfixed', rfl⟩ := hfixed.of_trim
    rw [trimItems_eq_zipWith] at hmem
    obtain ⟨w, hmem', rfl⟩ := exists_of_mem_zip_zipWith hmem
    exact ⟨w, .component hfixed' hmem', rfl⟩
  | mapValue hmem =>
    cases v with
    | config tree =>
      cases hw
      obtain ⟨p, hmem', rfl⟩ := List.mem_map.mp hmem
      exact ⟨p.2, .mapValue hmem', rfl⟩
    | _ => cases hw
  | fieldAt hmem =>
    cases v with
    | list items =>
      cases hw
      rw [trimFields_eq_zipWith] at hmem
      obtain ⟨w, hmem', rfl⟩ := exists_of_mem_zip_zipWith hmem
      exact ⟨w, .fieldAt hmem', rfl⟩
    | _ => cases hw
  | fieldNamed hnamed hmem hfind =>
    subst hw
    obtain ⟨entries, hnamed', rfl⟩ := hnamed.of_trim
    obtain ⟨p, hmem', rfl⟩ := List.mem_map.mp hmem
    exact ⟨p.2, .fieldNamed hnamed' hmem' hfind, by rw [trimField_eq, hfind, Option.elim_some]⟩
  | newtypeVariant hfind =>
    obtain ⟨content, rfl, hcontent⟩ := trim_enum_eq hw
    rw [trimVariant_eq, hfind, Option.elim_some] at hcontent
    exact ⟨content, .newtypeVariant hfind, hcontent⟩

/-- The lists of fixed length within the cut value are the fronts of those within the value. -/
theorem Meets.of_trim (h : Meets t (t.trim v) ts items) :
    ∃ items', Meets t v ts items' ∧ items = trimItems ts items' := by
  generalize hw : t.trim v = w at h
  induction h generalizing v with
  | here hfixed =>
    subst hw
    obtain ⟨items', hfixed', heq⟩ := hfixed.of_trim
    exact ⟨items', .here hfixed', heq⟩
  | there hpart _ ih =>
    subst hw
    obtain ⟨w, hpart', hw⟩ := hpart.of_trim
    obtain ⟨items', hmeets, heq⟩ := ih hw.symm
    exact ⟨items', .there hpart' hmeets, heq⟩

/-- How the lists of fixed length within a value count for reading it. -/
structure DropsSurplus (t : DataType) (v : Value) : Prop where
  /-- When the value is read, none of them is too short. -/
  enough : ∀ d, t.decode v = .ok d → ∀ ts items, Meets t v ts items → ts.length ≤ items.length
  /-- Those that are too long may as well be cut. -/
  same : t.decode (t.trim v) = t.decode v
  /-- When the value is read, all of them have their length once they are cut. -/
  lengths : ∀ d, t.decode v = .ok d → ∀ ts items, Meets t (t.trim v) ts items →
    items.length = ts.length

/-- A type that is read from a value passes over the items that are too many, at any depth. -/
theorem dropsSurplus (t : DataType) (v : Value) : DropsSurplus t v where
  enough _ hd _ _ hmeets := hmeets.length_le hd
  same := trims t v
  lengths d hd ts items hmeets := by
    obtain ⟨items', hmeets', rfl⟩ := hmeets.of_trim
    rw [trimItems_eq_zipWith, List.length_zipWith]
    exact Nat.min_eq_left (hmeets'.length_le hd)

namespace Example

/-- A pair is read from a list of three, and so are two numbers that a tree names as a variant. -/
theorem decode_tooLong :
    FixedList Catalog.labelled (.list [.number (.integer 1), .string "a", .bool true])
        [.integer .u8, .string] [.number (.integer 1), .string "a", .bool true]
      ∧ Catalog.labelled.decode (.list [.number (.integer 1), .string "a", .bool true])
        = .ok (.seq [.integer 1, .string "a"])
      ∧ Catalog.mode.decode (.config ⟨[("Pair", .list [.number (.integer 1), .number (.integer 2),
          .number (.integer 3)])], []⟩)
        = .ok (.variant "Pair" (.seq [.integer 1, .integer 2])) :=
  ⟨.tuple, rfl, rfl⟩

end Example

end ConfigBinding.Bridge
