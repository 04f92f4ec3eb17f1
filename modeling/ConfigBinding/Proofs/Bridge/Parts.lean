import ConfigBinding.Proofs.Bridge.RoundTrip

/-!
# The parts of a value that a type reads

A type is read from a value by way of other types, which are read from parts of the value
(`Part`). Two shapes of parts come up in several kinds of types: lists with one item for each of
some types (`FixedList`), which tuples, arrays and the contents of tuple variants are, and maps with
entries for the fields of a structure (`NamedFields`). For each shape it is said once how it is
read.

When a value is read, so are all of its parts (`Part.decode_eq_ok`).
-/

namespace ConfigBinding.Bridge

open Numeric

/-- To the type, the value is a list that has one item for each of some types. -/
inductive FixedList : DataType → Value → List DataType → List Value → Prop where
  | array {n : Nat} {t : DataType} {items : List Value} :
    FixedList (.array n t) (.list items) (List.replicate n t) items
  | tuple {ts : List DataType} {items : List Value} : FixedList (.tuple ts) (.list items) ts items
  | tupleStruct {name : String} {ts : List DataType} {items : List Value} :
    FixedList (.tupleStruct name ts) (.list items) ts items
  | tupleVariant {name variant : String} {variants : List Variant} {ts : List DataType}
    {items : List Value} {comments : List (String × String)}
    (hfind : variants.find? (·.name = variant) = some (.tuple variant ts)) :
    FixedList (.enum name variants) (.config ⟨[(variant, .list items)], comments⟩) ts items

/-- To the type, the value is a map with entries for some fields. -/
inductive NamedFields : DataType → Value → List Field → List (String × Value) → Prop where
  | struct {name : String} {closed : Bool} {fields : List Field} {tree : Tree} :
    NamedFields (.struct name closed fields) (.config tree) fields tree.entries
  | structVariant {name variant : String} {variants : List Variant} {fields : List Field}
    {tree : Tree} {comments : List (String × String)}
    (hfind : variants.find? (·.name = variant) = some (.struct variant fields)) :
    NamedFields (.enum name variants) (.config ⟨[(variant, .config tree)], comments⟩) fields
      tree.entries

/-- To read the first type from the first value, the second type is read from the second value. Keys
of maps are left out: they are texts and have no parts. -/
inductive Part : DataType → Value → DataType → Value → Prop where
  | option {t : DataType} {v : Value} (hnull : v.isNull = false) : Part (.option t) v t v
  | newtypeStruct {name : String} {t : DataType} {v : Value} : Part (.newtypeStruct name t) v t v
  | item {t : DataType} {items : List Value} {v : Value} (hmem : v ∈ items) :
    Part (.list t) (.list items) t v
  | component {t t' : DataType} {v v' : Value} {ts : List DataType} {items : List Value}
    (h : FixedList t v ts items) (hmem : (t', v') ∈ ts.zip items) : Part t v t' v'
  | mapValue {k t : DataType} {tree : Tree} {p : String × Value} (hmem : p ∈ tree.entries) :
    Part (.map k t) (.config tree) t p.2
  | fieldAt {name : String} {closed : Bool} {fields : List Field} {items : List Value}
    {field : Field} {v : Value} (hmem : (field, v) ∈ fields.zip items) :
    Part (.struct name closed fields) (.list items) field.type v
  | fieldNamed {t : DataType} {v : Value} {fields : List Field} {entries : List (String × Value)}
    {field : Field} {p : String × Value} (h : NamedFields t v fields entries) (hmem : p ∈ entries)
    (hfind : fields.find? (·.name = p.1) = some field) : Part t v field.type p.2
  | newtypeVariant {name variant : String} {variants : List Variant} {t : DataType} {v : Value}
    {comments : List (String × String)}
    (hfind : variants.find? (·.name = variant) = some (.newtype variant t)) :
    Part (.enum name variants) (.config ⟨[(variant, v)], comments⟩) t v

/-- Reading the type from the value, at some depth a list is read that has one item for each of some
types. -/
inductive Meets : DataType → Value → List DataType → List Value → Prop where
  | here {t : DataType} {v : Value} {ts : List DataType} {items : List Value}
    (h : FixedList t v ts items) : Meets t v ts items
  | there {t t' : DataType} {v v' : Value} {ts : List DataType} {items : List Value}
    (h : Part t v t' v') (hmeets : Meets t' v' ts items) : Meets t v ts items

variable {t t' : DataType} {v v' : Value} {ts : List DataType} {items : List Value}
  {fields : List Field} {entries : List (String × Value)} {readers : List FieldReader}

/-! ## How the shapes are read -/

/-- All types to which a value is a list with one item for each of some types read the items in the
same way. -/
theorem FixedList.decode_eq (h : FixedList t v ts items) :
    ∃ (expected : String) (f : List Data → Data),
      t.decode v = f <$> readComponents expected 0 (itemReaders ts) items := by
  cases h with
  | @array n t =>
    refine ⟨"an array of length " ++ toString n, .seq, ?_⟩
    rw [itemReaders_replicate, DataType.decode]
    rfl
  | tuple => exact ⟨"a tuple of size " ++ toString ts.length, .seq, rfl⟩
  | @tupleStruct name =>
    exact ⟨withElements ("tuple struct " ++ name) ts.length, .seq, rfl⟩
  | @tupleVariant name variant =>
    rename_i hfind
    obtain ⟨reader, hreader, hdecode⟩ := decode_enum name hfind
    obtain rfl := List.singleton_inj.mp hreader
    refine ⟨withElements ("tuple variant " ++ name ++ "::" ++ variant) ts.length,
      Data.variant variant ∘ .seq, (hdecode _ _ rfl).trans ?_⟩
    exact Functor.map_map ..

/-- So do all types to which a value is a map with entries for some fields. -/
theorem NamedFields.decode_eq (h : NamedFields t v fields entries) :
    ∃ (closed : Bool) (f : Data → Data),
      t.decode v = f <$> readNamed closed (fieldReaders fields) entries := by
  cases h with
  | @struct _ closed => exact ⟨closed, id, (id_map _).symm⟩
  | @structVariant name variant _ _ tree =>
    rename_i hfind
    obtain ⟨reader, hreader, hdecode⟩ := decode_enum name hfind
    obtain rfl := List.singleton_inj.mp hreader
    exact ⟨false, .variant variant, hdecode _ (some (.config tree)) rfl⟩

/-! ## Reading a value reads its parts -/

/-- The components of a tuple are read when there are enough items, and each component is read from
its own. -/
theorem readComponents_eq_ok {expected : String} {index : Nat}
    {readers : List (Value → Result Data)} {ds : List Data} :
    readComponents expected index readers items = .ok ds
      ↔ readers.length ≤ items.length
        ∧ List.Forall₂ (fun p d => p.1 p.2 = .ok d) (readers.zip items) ds := by
  induction readers generalizing index items ds with
  | nil => simp [readComponents, eq_comm]
  | cons read rest ih =>
    cases items with
    | nil => simp [readComponents, refuse]
    | cons v items =>
      rw [readComponents, Result.bind_eq_ok, List.zip_cons_cons, List.forall₂_cons_left_iff]
      simp only [Result.bind_eq_ok, ih, pure, Except.pure, Except.ok.injEq, List.length_cons,
        Nat.add_le_add_iff_right]
      constructor
      · rintro ⟨d, hd, ds, ⟨hlength, hds⟩, rfl⟩
        exact ⟨hlength, d, ds, hd, hds, rfl⟩
      · rintro ⟨hlength, d, ds, hd, hds, rfl⟩
        exact ⟨d, hd, ds, ⟨hlength, hds⟩, rfl⟩

theorem read_of_readPositional {expected : String} {index : Nat} {ds : List (String × Data)}
    (h : readPositional expected index readers items = .ok ds) {p : FieldReader × Value}
    (hmem : p ∈ readers.zip items) : ∃ d, p.1.read p.2 = .ok d := by
  induction readers generalizing index items ds with
  | nil => simp at hmem
  | cons reader rest ih =>
    cases items with
    | nil => simp at hmem
    | cons v items =>
      simp only [readPositional, Result.bind_eq_ok, pure, Except.pure, Except.ok.injEq] at h
      obtain ⟨d, hd, _, rfl, ds, hds, -⟩ := h
      rcases List.mem_cons.mp hmem with rfl | hmem
      · exact ⟨d, hd⟩
      · exact ih hds hmem

theorem read_of_readEntries {closed : Bool} {ds : List (String × Data)}
    (h : readEntries closed readers entries = .ok ds) {p : String × Value} (hmem : p ∈ entries)
    {reader : FieldReader} (hfind : readers.find? (·.name = p.1) = some reader) :
    ∃ d, reader.read p.2 = .ok d := by
  induction entries generalizing ds with
  | nil => simp at hmem
  | cons first rest ih =>
    obtain ⟨k, v⟩ := first
    rw [readEntries] at h
    rcases List.mem_cons.mp hmem with rfl | hmem
    · rw [hfind] at h
      obtain ⟨d, hd, -⟩ := Result.bind_eq_ok.mp h
      exact ⟨d, hd⟩
    · split at h
      · obtain ⟨_, -, hrest⟩ := Result.bind_eq_ok.mp h
        obtain ⟨_, hds, -⟩ := Result.bind_eq_ok.mp hrest
        exact ih hds hmem
      · split at h
        · cases h
        · exact ih h hmem

theorem value_of_readMap {before : Data → Data → Bool} {key value : Value → Result Data}
    {read out : List (Data × Data)}
    (h : readMap before key value read entries = .ok out) {p : String × Value} (hmem : p ∈ entries) :
    ∃ d, value p.2 = .ok d := by
  induction entries generalizing read with
  | nil => simp at hmem
  | cons first rest ih =>
    obtain ⟨k, v⟩ := first
    obtain ⟨_, -, hrest⟩ := Result.bind_eq_ok.mp h
    obtain ⟨d, hd, hmore⟩ := Result.bind_eq_ok.mp hrest
    rcases List.mem_cons.mp hmem with rfl | hmem
    · exact ⟨d, hd⟩
    · exact ih hmore hmem

/-- The fields of a structure and their readers stand at the same places. -/
theorem exists_reader_of_mem_zip {field : Field} (hmem : (field, v) ∈ fields.zip items) :
    ∃ reader, (reader, v) ∈ (fieldReaders fields).zip items
      ∧ ∀ v, reader.read v = field.type.decode v := by
  induction fields generalizing items with
  | nil => simp at hmem
  | cons first rest ih =>
    cases items with
    | nil => simp at hmem
    | cons w items =>
      obtain ⟨reader, hcons, -, hread⟩ := fieldReaders_cons first rest
      rw [hcons]
      rcases List.mem_cons.mp hmem with heq | hmem
      · obtain ⟨rfl, rfl⟩ := Prod.mk.inj heq
        exact ⟨reader, List.mem_cons_self, hread⟩
      · obtain ⟨reader', hmem', hread'⟩ := ih hmem
        exact ⟨reader', List.mem_cons_of_mem _ hmem', hread'⟩

/-- A list that has one item for each of some types is not read unless it has as many items. -/
theorem FixedList.length_le (h : FixedList t v ts items) {d : Data} (hd : t.decode v = .ok d) :
    ts.length ≤ items.length := by
  obtain ⟨expected, f, hdecode⟩ := h.decode_eq
  obtain ⟨ds, hds, -⟩ := Result.map_eq_ok.mp (hdecode ▸ hd)
  rw [itemReaders_eq_map] at hds
  simpa using (readComponents_eq_ok.mp hds).1

/-- When a value is read, so are its parts. -/
theorem Part.decode_eq_ok (h : Part t v t' v') {d : Data} (hd : t.decode v = .ok d) :
    ∃ d', t'.decode v' = .ok d' := by
  cases h with
  | option hnull =>
    rw [DataType.decode, hnull] at hd
    obtain ⟨d', hd', -⟩ := Result.map_eq_ok.mp hd
    exact ⟨d', hd'⟩
  | newtypeStruct => exact ⟨d, hd⟩
  | item hmem =>
    obtain ⟨ds, hds, -⟩ := Result.map_eq_ok.mp hd
    obtain ⟨d', -, hd'⟩ := exists_of_forall₂ (Result.mapM_eq_ok.mp hds).flip hmem
    exact ⟨d', hd'⟩
  | @component _ _ _ _ ts items hfixed hmem =>
    obtain ⟨expected, f, hdecode⟩ := hfixed.decode_eq
    obtain ⟨ds, hds, -⟩ := Result.map_eq_ok.mp (hdecode ▸ hd)
    have hmem' : (fun v => t'.decode v, v') ∈ (itemReaders ts).zip items := by
      rw [itemReaders_eq_map, List.zip_map_left]
      exact List.mem_map.mpr ⟨(t', v'), hmem, rfl⟩
    obtain ⟨d', -, hd'⟩ := exists_of_forall₂ (readComponents_eq_ok.mp hds).2.flip hmem'
    exact ⟨d', hd'⟩
  | mapValue hmem =>
    obtain ⟨out, hout, -⟩ := Result.map_eq_ok.mp hd
    exact value_of_readMap hout hmem
  | fieldAt hmem =>
    obtain ⟨ds, hds, -⟩ := Result.map_eq_ok.mp hd
    obtain ⟨reader, hmem', hread⟩ := exists_reader_of_mem_zip hmem
    rw [← hread]
    exact read_of_readPositional hds hmem'
  | fieldNamed hnamed hmem hfind =>
    obtain ⟨closed, f, hdecode⟩ := hnamed.decode_eq
    obtain ⟨_, hread, -⟩ := Result.map_eq_ok.mp (hdecode ▸ hd)
    obtain ⟨ds, hds, -⟩ := Result.bind_eq_ok.mp hread
    obtain ⟨reader, hreader, hdecode'⟩ := find?_fieldReaders hfind
    rw [← hdecode']
    exact read_of_readEntries hds hmem hreader
  | @newtypeVariant name =>
    rename_i hfind
    obtain ⟨reader, hreader, hdecode⟩ := decode_enum name hfind
    obtain rfl := List.singleton_inj.mp hreader
    rw [hdecode _ (some v') rfl] at hd
    obtain ⟨d', hd', -⟩ := Result.map_eq_ok.mp hd
    exact ⟨d', hd'⟩

/-- When a value is read, no list within it that has one item for each of some types is too
short. -/
theorem Meets.length_le (h : Meets t v ts items) {d : Data} (hd : t.decode v = .ok d) :
    ts.length ≤ items.length := by
  induction h generalizing d with
  | here hfixed => exact hfixed.length_le hd
  | there hpart _ ih =>
    obtain ⟨d', hd'⟩ := hpart.decode_eq_ok hd
    exact ih hd'

end ConfigBinding.Bridge
