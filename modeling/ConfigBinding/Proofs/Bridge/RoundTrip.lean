import ConfigBinding.Bridge.Catalog
import ConfigBinding.Proofs.Bridge.BigIntegers
import ConfigBinding.Proofs.Bridge.Scripts
import ConfigBinding.Proofs.Bridge.Typing
import ConfigBinding.Proofs.Numeric.Lossless
import ConfigBinding.Proofs.Sequence

/-!
# Described data are read back

What a type makes of its data is read back by the same type: `decode_encode` goes through a value,
by way of the script of the data.

The induction is on the typing of the data, and its statement is `RoundTrips`: a value exists, and
it gives the data back. One section for each kind of composite shows how the values of the parts
make the value of the whole, and how reading comes upon the parts again.
-/

namespace ConfigBinding.Bridge

open Numeric

/-- The data are described by a value, and the value is read as these data. -/
def RoundTrips (t : DataType) (d : Data) : Prop :=
  ∃ v, (t.encode d).toValue = .ok v ∧ t.decode v = .ok d

/-! ## Integers -/

/-- The integers of a type arrive as integers, and as ones of 128 bits only where the type has
128 bits itself. -/
theorem incoming_ofInt {type : IntType} {n : Int} (h : type.contains n = true) :
    ∃ source : IntType, Incoming.of (.ofInt n) = .integer source n
      ∧ ¬ (type.bits < source.bits ∧ source.bits = 128) := by
  rw [Value.ofInt]
  split
  · rename_i hnarrow
    have hint : (Int64.ofInt n).toInt = n := Int64.toInt_ofInt_of_le hnarrow.1 hnarrow.2
    exact ⟨.i64, by rw [Incoming.of, hint], by simp [IntType.bits]⟩
  · rename_i hbig
    rcases ofBig_cases n with ⟨-, hof⟩ | ⟨hwide, source, -, hof⟩ | ⟨hbeyond, -⟩
    · exact ⟨.u64, hof, by simp [IntType.bits]⟩
    · refine ⟨source, hof, fun hbits => ?_⟩
      obtain ⟨hleast, hgreatest⟩ := narrow_of_contains h (hbits.2 ▸ hbits.1)
      -- what is negative or beyond 64 bits here was no integer of 64 bits to begin with
      rcases hwide.2.2 with hneg | hlarge <;> omega
    · exact absurd (bounds_of_contains h) hbeyond

/-- An integer of a type is read back, whichever way it arrives. -/
theorem readInteger_ofInt {type : IntType} {n : Int} (h : type.contains n = true) :
    readInteger type (Incoming.of (.ofInt n)) = .ok (.integer n) := by
  obtain ⟨source, harrives, hwidth⟩ := incoming_ofInt h
  rw [harrives, readInteger, if_neg hwidth, if_pos h]

/-! ## Lists and tuples -/

/-- The items of a list are read back when each of them is. -/
theorem list_roundTrips {t : DataType} {ds : List Data} (h : ∀ d ∈ ds, RoundTrips t d) :
    RoundTrips (.list t) (.seq ds) := by
  obtain ⟨vs, hvs⟩ := exists_forall₂ h
  have hencode : itemValues (ds.map fun d => t.encode d) = .ok vs := by
    rw [itemValues_eq_mapM, Result.mapM_eq_ok, List.forall₂_map_left_iff]
    exact hvs.imp fun _ _ hd => hd.1
  have hdecode : (vs.mapM fun v => t.decode v) = .ok ds :=
    Result.mapM_eq_ok.mpr (hvs.flip.imp fun _ _ hd => hd.2)
  refine ⟨.list vs, ?_, ?_⟩
  · rw [DataType.encode, Script.toValue, hencode]
    rfl
  · simp only [DataType.decode, Incoming.of, hdecode]
    rfl

/-- The components of a tuple are read back, whatever the tuple is called in messages. -/
theorem components_roundTrip {ts : List DataType} {ds : List Data}
    (h : List.Forall₂ RoundTrips ts ds) :
    ∃ vs, itemValues (encodeItems ts ds) = .ok vs
      ∧ ∀ expected index, readComponents expected index (itemReaders ts) vs = .ok ds := by
  induction h with
  | nil => exact ⟨[], rfl, fun _ _ => rfl⟩
  | cons hd _ ih =>
    obtain ⟨v, hencode, hdecode⟩ := hd
    obtain ⟨vs, hvalues, hcomponents⟩ := ih
    refine ⟨v :: vs, ?_, fun expected index => ?_⟩
    · rw [encodeItems, itemValues, hencode, hvalues]
      rfl
    · simp only [itemReaders, readComponents, hdecode, hcomponents]
      rfl

/-- The list of the components of a tuple is read back when each of them is. -/
theorem tuple_roundTrips {ts : List DataType} {ds : List Data} (hlength : ts.length = ds.length)
    (h : ∀ p ∈ ts.zip ds, p.1.isFaithful = true → RoundTrips p.1 p.2)
    (hts : faithfulItems ts = true) :
    ∃ vs, Value.list <$> itemValues (encodeItems ts ds) = .ok (.list vs)
      ∧ ∀ expected, Data.seq <$> readComponents expected 0 (itemReaders ts) vs = .ok (.seq ds) := by
  have hcomponents : List.Forall₂ RoundTrips ts ds := List.forall₂_iff_zip.mpr
    ⟨hlength, fun hmem => h _ hmem (faithful_of_mem_items hts (List.of_mem_zip hmem).1)⟩
  obtain ⟨vs, hvalues, hread⟩ := components_roundTrip hcomponents
  refine ⟨vs, ?_, fun expected => ?_⟩
  · rw [hvalues]
    rfl
  · rw [hread]
    rfl

theorem itemReaders_eq_map (ts : List DataType) :
    itemReaders ts = ts.map fun t v => t.decode v := by
  induction ts with
  | nil => rfl
  | cons t rest ih => rw [itemReaders, ih, List.map_cons]

/-- The components of an array are read as those of a tuple. -/
theorem itemReaders_replicate (n : Nat) (t : DataType) :
    itemReaders (List.replicate n t) = List.replicate n fun v => t.decode v := by
  rw [itemReaders_eq_map, List.map_replicate]

/-- An array is a tuple of components of one type. -/
theorem array_eq_tuple (t : DataType) (ds : List Data) :
    (ds.map fun d => t.encode d) = encodeItems (List.replicate ds.length t) ds
      ∧ (t.isFaithful = true → faithfulItems (List.replicate ds.length t) = true) := by
  induction ds with
  | nil => exact ⟨rfl, fun _ => rfl⟩
  | cons d rest ih =>
    obtain ⟨hencodes, hfaithful⟩ := ih
    refine ⟨?_, fun ht => ?_⟩
    · rw [List.map_cons, hencodes]
      rfl
    · rw [List.length_cons, List.replicate_succ, faithfulItems, ht, hfaithful ht]
      rfl

/-! ## Structures -/

/-- The values of the fields are stored under their names, one after the other. -/
theorem fieldValues_eq {scripts : List (String × Script)} {entries done : List (String × Value)}
    (h : List.Forall₂ (fun s e => s.1 = e.1 ∧ s.2.toValue = .ok e.2) scripts entries) :
    fieldValues done scripts = .ok (Keyed.insertAll done entries) := by
  induction h generalizing done with
  | nil => rfl
  | @cons s e scripts entries he _ ih =>
    obtain ⟨name, script⟩ := s
    obtain ⟨key, v⟩ := e
    obtain ⟨rfl, hv⟩ := he
    rw [fieldValues, hv]
    exact ih

/-- The entries of a map that are the fields of a structure are all read. -/
theorem readEntries_eq {closed : Bool} {readers : List FieldReader}
    {entries : List (String × Value)} {ds : List (String × Data)}
    (h : List.Forall₂ (fun e d => e.1 = d.1 ∧ ∃ reader,
      readers.find? (·.name = e.1) = some reader ∧ reader.read e.2 = .ok d.2) entries ds) :
    readEntries closed readers entries = .ok ds := by
  induction h with
  | nil => rfl
  | @cons e d _ _ he _ ih =>
    obtain ⟨key, v⟩ := e
    obtain ⟨name, datum⟩ := d
    obtain ⟨rfl, reader, hfind, hread⟩ := he
    simp only [readEntries, hfind, hread, ih]
    rfl

/-- When all fields have been read, nothing is missing. -/
theorem completeFields_eq {read ds : List (String × Data)} {readers : List FieldReader}
    (hnames : readers.map FieldReader.name = ds.map Prod.fst)
    (hread : ∀ p ∈ ds, Keyed.get? read p.1 = some p.2) :
    completeFields read readers = .ok ds := by
  induction ds generalizing readers with
  | nil =>
    obtain rfl := List.map_eq_nil_iff.mp hnames
    rfl
  | cons p rest ih =>
    obtain ⟨name, d⟩ := p
    obtain ⟨reader, readers, rfl, rfl, hrest⟩ := List.map_eq_cons_iff.mp hnames
    have hd : Keyed.get? read reader.name = some d := hread _ List.mem_cons_self
    simp only [completeFields, hd, ih hrest fun p hp => hread p (List.mem_cons_of_mem _ hp)]
    rfl

/-- The reader of a field has its name and reads its type. -/
theorem fieldReaders_cons (field : Field) (rest : List Field) :
    ∃ reader, fieldReaders (field :: rest) = reader :: fieldReaders rest
      ∧ reader.name = field.name ∧ ∀ v, reader.read v = field.type.decode v := by
  obtain ⟨name, t, default⟩ := field
  exact ⟨_, rfl, rfl, fun v => rfl⟩

theorem fieldReaders_names (fields : List Field) :
    (fieldReaders fields).map FieldReader.name = fields.map Field.name := by
  induction fields with
  | nil => rfl
  | cons field rest ih =>
    obtain ⟨reader, hcons, hname, -⟩ := fieldReaders_cons field rest
    rw [hcons, List.map_cons, List.map_cons, ih, hname]

/-- A field is read by the reader of its name. -/
theorem find?_fieldReaders {name : String} {fields : List Field} {field : Field}
    (hfind : fields.find? (·.name = name) = some field) :
    ∃ reader, (fieldReaders fields).find? (·.name = name) = some reader
      ∧ ∀ v, reader.read v = field.type.decode v := by
  induction fields with
  | nil => simp at hfind
  | cons first rest ih =>
    obtain ⟨reader, hcons, hname, hread⟩ := fieldReaders_cons first rest
    rw [hcons, List.find?_cons, hname]
    rw [List.find?_cons] at hfind
    split at hfind
    · obtain rfl := Option.some.inj hfind
      exact ⟨reader, rfl, hread⟩
    · exact ih hfind

theorem find?_fieldReaders_none {name : String} {fields : List Field}
    (hfind : fields.find? (·.name = name) = none) :
    (fieldReaders fields).find? (·.name = name) = none := by
  rw [List.find?_eq_none] at hfind ⊢
  intro reader hmem
  have hname : reader.name ∈ fields.map Field.name :=
    fieldReaders_names fields ▸ List.mem_map.mpr ⟨reader, hmem, rfl⟩
  obtain ⟨field, hfield, heq⟩ := List.mem_map.mp hname
  rw [← heq]
  exact hfind field hfield

/-- Of fields with distinct names each is the first one of its name. -/
theorem find?_field {fields : List Field} (hdistinct : (fields.map Field.name).Nodup)
    {field : Field} (hmem : field ∈ fields) :
    fields.find? (·.name = field.name) = some field := by
  induction fields with
  | nil => simp at hmem
  | cons first rest ih =>
    obtain ⟨hnew, hrest⟩ := List.nodup_cons.mp hdistinct
    rcases List.mem_cons.mp hmem with rfl | hmem
    · exact List.find?_cons_of_pos (by simp)
    · have hne : ¬ first.name = field.name := fun h => hnew (List.mem_map.mpr ⟨field, hmem, h.symm⟩)
      rw [List.find?_cons_of_neg (by simpa using hne)]
      exact ih hrest hmem

/-- The fields of a structure, taken from `all`, become entries that their readers read. -/
theorem entries_of_fields {fields : List Field} {ds all : List (String × Data)}
    {readers : List FieldReader}
    (h : List.Forall₂ (fun f d => f.name = d.1 ∧ RoundTrips f.type d.2) fields ds)
    (hall : ∀ p ∈ ds, Keyed.get? all p.1 = some p.2)
    (hreaders : ∀ f ∈ fields, ∃ reader, readers.find? (·.name = f.name) = some reader
      ∧ ∀ v, reader.read v = f.type.decode v) :
    ∃ entries : List (String × Value),
      List.Forall₂ (fun s e => s.1 = e.1 ∧ s.2.toValue = .ok e.2)
        (encodeFields fields all) entries
      ∧ List.Forall₂ (fun e d => e.1 = d.1 ∧ ∃ reader,
        readers.find? (·.name = e.1) = some reader ∧ reader.read e.2 = .ok d.2) entries ds := by
  induction h with
  | nil => exact ⟨[], .nil, .nil⟩
  | @cons field d _ _ hd _ ih =>
    obtain ⟨name, t, default⟩ := field
    obtain ⟨_, datum⟩ := d
    obtain ⟨rfl, v, hencode, hdecode⟩ := hd
    obtain ⟨entries, hvalues, hread⟩ := ih (fun p hp => hall p (List.mem_cons_of_mem _ hp))
      fun f hf => hreaders f (List.mem_cons_of_mem _ hf)
    obtain ⟨reader, hfind, hreader⟩ := hreaders _ List.mem_cons_self
    have hdatum : Keyed.get? all name = some datum := hall _ List.mem_cons_self
    refine ⟨(name, v) :: entries, ?_, .cons ⟨rfl, reader, hfind, (hreader v).trans hdecode⟩ hread⟩
    rw [encodeFields, hdatum]
    exact .cons ⟨rfl, hencode⟩ hvalues

/-- The fields of a structure are read back when each of them is. -/
theorem fields_roundTrip {fields : List Field} {ds : List (String × Data)}
    (hnames : fields.map Field.name = ds.map Prod.fst) (hdistinct : (fields.map Field.name).Nodup)
    (h : ∀ p ∈ fields.zip ds, RoundTrips p.1.type p.2.2) :
    ∃ entries, fieldValues [] (encodeFields fields ds) = .ok entries
      ∧ ∀ closed, readNamed closed (fieldReaders fields) entries = .ok (.record ds) := by
  have hall : ∀ p ∈ ds, Keyed.get? ds p.1 = some p.2 := fun p hp =>
    Keyed.get?_of_mem (hnames ▸ hdistinct : (ds.map Prod.fst).Nodup) hp
  have hfields : List.Forall₂ (fun f d => f.name = d.1 ∧ RoundTrips f.type d.2) fields ds := by
    rw [List.forall₂_iff_zip]
    refine ⟨by simpa using congrArg List.length hnames, fun {f d} hmem => ⟨?_, h _ hmem⟩⟩
    have hpair : (f.name, d.1) ∈ (fields.map Field.name).zip (ds.map Prod.fst) := by
      rw [List.zip_map]
      exact List.mem_map.mpr ⟨(f, d), hmem, rfl⟩
    rw [hnames] at hpair
    exact (List.forall₂_iff_zip.mp (List.forall₂_refl _)).2 hpair
  obtain ⟨entries, hvalues, hread⟩ := entries_of_fields hfields hall fun f hf =>
    find?_fieldReaders (find?_field hdistinct hf)
  have hkeys : Keyed.keys entries = ds.map Prod.fst :=
    forall₂_eq_iff_map_eq.mp (hread.imp fun _ _ he => he.1)
  have hentries : Keyed.Distinct entries := by
    rw [Keyed.Distinct, hkeys, ← hnames]
    exact hdistinct
  refine ⟨entries, by rw [fieldValues_eq hvalues, Keyed.insertAll_nil hentries], fun closed => ?_⟩
  have hcomplete := completeFields_eq ((fieldReaders_names fields).trans hnames) hall
  rw [readNamed, readEntries_eq hread]
  show Data.record <$> completeFields ds (fieldReaders fields) = _
  rw [hcomplete]
  rfl

/-! ## Maps -/

/-- A key behind all others goes to the end of a sorted map. -/
theorem insertSorted_of_behind {before : Data → Data → Bool} {read : List (Data × Data)}
    {key : Data} (h : ∀ p ∈ read, before p.1 key = true) (value : Data) :
    insertSorted before read key value = read ++ [(key, value)] := by
  induction read with
  | nil => rfl
  | cons p rest ih =>
    obtain ⟨k, v⟩ := p
    have hbefore : before k key = true := h _ List.mem_cons_self
    rw [insertSorted, if_pos hbefore, ih fun p hp => h p (List.mem_cons_of_mem _ hp),
      List.cons_append]

/-- Entries in ascending order are read in this order, behind the ones that are there. -/
theorem readMap_eq {before : Data → Data → Bool} {t : DataType} {values : List (String × Value)}
    {entries : List (Data × Data)}
    (h : List.Forall₂ (fun e p => p.1 = .string e.1 ∧ t.decode e.2 = .ok p.2) values entries)
    {read : List (Data × Data)}
    (horder : (read ++ entries).Pairwise fun p q => before p.1 q.1 = true) :
    readMap before (fun v => DataType.string.decode v) (fun v => t.decode v) read values
      = .ok (read ++ entries) := by
  -- every key of `read` lies before the next one, which therefore goes to the end
  induction h generalizing read with
  | nil => simp [readMap]
  | @cons e p values entries hp _ ih =>
    obtain ⟨key, v⟩ := e
    obtain ⟨_, d⟩ := p
    obtain ⟨rfl, hv⟩ := hp
    have hbehind : ∀ p ∈ read, before p.1 (.string key) = true := fun p hp =>
      (List.pairwise_append.mp horder).2.2 p hp _ List.mem_cons_self
    have hassoc : read ++ (.string key, d) :: entries
        = (read ++ [(Data.string key, d)]) ++ entries := by simp
    rw [readMap, hv]
    show readMap _ _ _ (insertSorted before read (.string key) d) values = _
    rw [insertSorted_of_behind hbehind, hassoc]
    exact ih (hassoc ▸ horder)

/-- A map with strings as keys is read back when each of its values is. -/
theorem map_roundTrips {t : DataType} {entries : List (Data × Data)}
    (horder : entries.Pairwise fun p q => DataType.string.keyBefore p.1 q.1 = true)
    (hkeys : ∀ p ∈ entries, Fits .string p.1) (h : ∀ p ∈ entries, RoundTrips t p.2) :
    RoundTrips (.map .string t) (.map entries) := by
  have hexists : ∀ p ∈ entries, ∃ e : String × Value, p.1 = .string e.1
      ∧ (t.encode p.2).toValue = .ok e.2 ∧ t.decode e.2 = .ok p.2 := by
    intro p hp
    obtain ⟨v, hv⟩ := h p hp
    generalize hkey : p.1 = key
    have hstring : Fits .string key := hkey ▸ hkeys p hp
    cases hstring with
    | string s => exact ⟨(s, v), rfl, hv⟩
  obtain ⟨values, hvalues⟩ := exists_forall₂ hexists
  have hascending : (values.map Prod.fst).Pairwise (· < ·) := by
    have hmap : entries.map Prod.fst = (values.map Prod.fst).map Data.string := by
      rw [List.map_map]
      exact forall₂_eq_iff_map_eq.mp (hvalues.imp fun _ _ hp => hp.1)
    have hpairs : ((values.map Prod.fst).map Data.string).Pairwise
        fun a b => DataType.string.keyBefore a b = true := by
      rw [← hmap]
      exact List.pairwise_map.mpr horder
    exact (List.pairwise_map.mp hpairs).imp fun hbefore => of_decide_eq_true hbefore
  have hdistinct : Keyed.Distinct values :=
    hascending.imp fun hlt => fun heq => String.lt_irrefl _ (heq ▸ hlt)
  have hgives : List.Forall₂ MapStep.Gives
      (entries.map fun p => .entry (DataType.string.encode p.1) (t.encode p.2)) values := by
    rw [List.forall₂_map_left_iff]
    refine hvalues.imp fun p e ⟨hkey, hvalue, _⟩ => ?_
    exact .entry (k := .string e.1) (by rw [hkey]; rfl) rfl hvalue
  have hread : readMap DataType.string.keyBefore (fun v => DataType.string.decode v)
      (fun v => t.decode v) [] values = .ok entries :=
    readMap_eq (hvalues.flip.imp fun _ _ hp => ⟨hp.1, hp.2.2⟩)
      ((List.nil_append entries).symm ▸ horder)
  refine ⟨.config ⟨values, []⟩, ?_, ?_⟩
  · rw [DataType.encode]
    exact toValue_map hgives hdistinct
  · rw [DataType.decode]
    show Data.map <$> readMap _ _ _ [] values = _
    rw [hread]
    rfl

/-! ## Variants -/

theorem encodeVariant_cons (name : String) (content : Data) (first : Variant) (rest : List Variant) :
    encodeVariant name content (first :: rest)
      = if first.name = name then encodeVariant name content [first]
        else encodeVariant name content rest := by
  cases first with
  | unit n | newtype n t | tuple n ts | struct n fields =>
    by_cases h : n = name <;> simp [encodeVariant, Variant.name, h]

/-- Data of a variant are described by the first variant of their name. -/
theorem encodeVariant_eq {variants : List Variant} {variant : Variant} {name : String}
    (hfind : variants.find? (·.name = name) = some variant) (content : Data) :
    encodeVariant name content variants = encodeVariant name content [variant] := by
  induction variants with
  | nil => simp at hfind
  | cons first rest ih =>
    rw [encodeVariant_cons]
    by_cases hname : first.name = name
    · rw [List.find?_cons_of_pos (by simpa using hname)] at hfind
      rw [if_pos hname, Option.some.inj hfind]
    · rw [List.find?_cons_of_neg (by simpa using hname)] at hfind
      rw [if_neg hname, ih hfind]

/-- The readers of variants have their names. -/
theorem variantReaders_cons (typeName : String) (first : Variant) (rest : List Variant) :
    ∃ reader, variantReaders typeName (first :: rest) = reader :: variantReaders typeName rest
      ∧ variantReaders typeName [first] = [reader] ∧ reader.name = first.name := by
  cases first <;> exact ⟨_, rfl, rfl, rfl⟩

/-- A variant is read by the reader of the first variant of its name. -/
theorem find?_variantReaders {typeName name : String} {variants : List Variant} {variant : Variant}
    (hfind : variants.find? (·.name = name) = some variant) :
    ∃ reader, variantReaders typeName [variant] = [reader]
      ∧ (variantReaders typeName variants).find? (·.name = name) = some reader := by
  induction variants with
  | nil => simp at hfind
  | cons first rest ih =>
    obtain ⟨reader, hcons, hone, hname⟩ := variantReaders_cons typeName first rest
    rw [hcons, List.find?_cons, hname]
    rw [List.find?_cons] at hfind
    split at hfind
    · obtain rfl := Option.some.inj hfind
      exact ⟨reader, hone, rfl⟩
    · exact ih hfind

theorem find?_variantReaders_eq_none {typeName name : String} {variants : List Variant}
    (hfind : variants.find? (·.name = name) = none) :
    (variantReaders typeName variants).find? (·.name = name) = none := by
  induction variants with
  | nil => rfl
  | cons first rest ih =>
    obtain ⟨reader, hcons, -, hname⟩ := variantReaders_cons typeName first rest
    rw [hcons, List.find?_cons, hname]
    rw [List.find?_cons] at hfind
    split at hfind
    · cases hfind
    · exact ih hfind

/-- The content of a variant is read by the reader of its name. -/
theorem decode_enum (name : String) {variant : String} {variants : List Variant} {found : Variant}
    (hfind : variants.find? (·.name = variant) = some found) :
    ∃ reader, variantReaders name [found] = [reader]
      ∧ ∀ v inner, variantOf v = .ok (variant, inner) →
        (DataType.enum name variants).decode v = Data.variant variant <$> reader.read inner := by
  obtain ⟨reader, hreader, hfindReader⟩ :=
    (find?_variantReaders hfind : ∃ reader, variantReaders name [found] = [reader] ∧ _)
  refine ⟨reader, hreader, fun v inner hvariant => ?_⟩
  simp only [DataType.decode, hvariant, hfindReader, bind, Except.bind]

/-- A variant is read back when the value of its content names it, and its reader reads the
content. -/
theorem variant_roundTrips {name variant : String} {variants : List Variant} {found : Variant}
    {reader : VariantReader} {content : Data} (v : Value) (inner : Option Value)
    (hfind : variants.find? (·.name = variant) = some found)
    (hencode : (encodeVariant variant content [found]).toValue = .ok v)
    (hvariant : variantOf v = .ok (variant, inner))
    (hreader : variantReaders name [found] = [reader]) (hread : reader.read inner = .ok content) :
    RoundTrips (.enum name variants) (.variant variant content) := by
  obtain ⟨reader', hreader', hdecode⟩ := decode_enum name hfind
  obtain rfl := List.singleton_inj.mp (hreader.symm.trans hreader')
  refine ⟨v, by rw [DataType.encode, encodeVariant_eq hfind, hencode], ?_⟩
  rw [hdecode v inner hvariant, hread]
  rfl

/-! ## Types -/

/-- Only data of a type that allows it are described as the null marker. -/
theorem not_isNull {t : DataType} {d : Data} (h : Fits t d) (hnull : t.mayBeNull = false) {v : Value}
    (hv : (t.encode d).toValue = .ok v) : v.isNull = false := by
  have hmap : ∀ {α : Type} {x : Result α} {f : α → Value}, f <$> x = .ok v →
      (∀ a, (f a).isNull = false) → v.isNull = false := by
    intro α x f hx hf
    obtain ⟨a, -, rfl⟩ := Result.map_eq_ok.mp hx
    exact hf a
  induction h with
  | integer =>
    obtain rfl := Except.ok.inj hv
    exact Value.isNull_ofInt _
  | newtypeStruct _ ih => exact ih hnull (by simpa only [DataType.encode, Script.toValue] using hv)
  | unit | none | some | unitStruct | value | script => simp [DataType.mayBeNull] at hnull
  | bool | single | double | char | string =>
    obtain rfl := Except.ok.inj hv
    rfl
  | list | array | tuple | map | tupleStruct | struct => exact hmap hv fun _ => rfl
  | unitVariant hfind | newtypeVariant hfind | tupleVariant hfind | structVariant hfind =>
    rw [DataType.encode, encodeVariant_eq hfind, encodeVariant, if_pos rfl] at hv
    first
      | exact hmap hv fun _ => rfl
      | (obtain rfl := Except.ok.inj hv; rfl)

/-- The data of a faithful type are read back. -/
theorem roundTrips_of_fits {t : DataType} {d : Data} (h : Fits t d) (ht : t.isFaithful = true) :
    RoundTrips t d := by
  induction h with
  | unit => exact ⟨.null, rfl, rfl⟩
  | bool b => exact ⟨.bool b, rfl, rfl⟩
  | @integer type n hrange =>
    exact ⟨.ofInt n, rfl, by rw [DataType.decode]; exact readInteger_ofInt hrange⟩
  | single x =>
    refine ⟨.number (.float (x.convert .double)), rfl, ?_⟩
    simp only [DataType.decode, Incoming.of, readFloat, Binary.convert_single_double]
    rfl
  | double x =>
    refine ⟨.number (.float x), rfl, ?_⟩
    simp only [DataType.decode, Incoming.of, readFloat, Binary.convert_self]
    rfl
  | char c =>
    refine ⟨.string (String.ofList [c]), rfl, ?_⟩
    simp [DataType.decode, Incoming.of, readChar]
  | string s => exact ⟨.string s, rfl, rfl⟩
  | none => exact ⟨.null, rfl, rfl⟩
  | @some t d hd ih =>
    obtain ⟨hnull, ht⟩ : t.mayBeNull = false ∧ t.isFaithful = true := by
      simpa [DataType.isFaithful] using ht
    obtain ⟨v, hencode, hdecode⟩ := ih ht
    refine ⟨v, hencode, ?_⟩
    -- a null marker would be read as nothing, but the content has none for its description
    rw [DataType.decode, not_isNull hd hnull hencode, hdecode]
    rfl
  | list _ ih => exact list_roundTrips fun d hd => ih d hd ht
  | @array n t ds hlength _ ih =>
    subst hlength
    -- an array is described and read as a tuple with its type repeated
    obtain ⟨hencodes, hfaithful⟩ := array_eq_tuple t ds
    have hitems : ∀ p ∈ (List.replicate ds.length t).zip ds, RoundTrips p.1 p.2 := by
      intro p hp
      obtain ⟨htype, hmem⟩ := List.of_mem_zip hp
      rw [List.eq_of_mem_replicate htype]
      exact ih p.2 hmem ht
    obtain ⟨vs, hvalues, hread⟩ :=
      tuple_roundTrips List.length_replicate (fun p hp _ => hitems p hp) (hfaithful ht)
    refine ⟨.list vs, ?_, ?_⟩
    · rw [DataType.encode, Script.toValue, hencodes]
      exact hvalues
    · rw [DataType.decode, ← itemReaders_replicate]
      exact hread _
  | @tuple ts ds hlength _ ih =>
    obtain ⟨vs, hvalues, hread⟩ := tuple_roundTrips hlength ih ht
    refine ⟨.list vs, hvalues, ?_⟩
    rw [DataType.decode]
    exact hread _
  | @map k t entries horder hkeys _ _ ih =>
    obtain ⟨hstring, ht⟩ : k.isString = true ∧ t.isFaithful = true := by
      simpa [DataType.isFaithful] using ht
    obtain rfl : k = .string := by cases k <;> simp_all [DataType.isString]
    exact map_roundTrips horder hkeys fun p hp => ih p hp ht
  | unitStruct => exact ⟨.null, rfl, rfl⟩
  | newtypeStruct _ ih => exact ih ht
  | @tupleStruct name ts ds hlength _ ih =>
    obtain ⟨vs, hvalues, hread⟩ := tuple_roundTrips hlength ih ht
    refine ⟨.list vs, hvalues, ?_⟩
    rw [DataType.decode]
    exact hread _
  | @struct name closed fields ds hnames _ ih =>
    obtain ⟨hdistinct, hfields⟩ : (fields.map Field.name).Nodup ∧ faithfulFields fields = true := by
      simpa [DataType.isFaithful] using ht
    obtain ⟨entries, hvalues, hread⟩ := fields_roundTrip hnames hdistinct fun p hp =>
      ih p hp (faithful_of_mem_fields hfields (List.of_mem_zip hp).1)
    refine ⟨.config ⟨entries, []⟩, ?_, ?_⟩
    · rw [DataType.encode, Script.toValue, hvalues]
      rfl
    · rw [DataType.decode]
      exact hread closed
  | @unitVariant name variant variants hfind =>
    refine variant_roundTrips (.string variant) none hfind ?_ rfl rfl rfl
    rw [encodeVariant, if_pos rfl]
    rfl
  | @newtypeVariant name variant variants t d hfind _ ih =>
    have ht : t.isFaithful = true := by
      have := faithful_of_mem_variants ht (List.mem_of_find?_eq_some hfind)
      simpa [faithfulVariants] using this
    obtain ⟨v, hencode, hdecode⟩ := ih ht
    refine variant_roundTrips (tagged variant v) (some v) hfind ?_ rfl rfl hdecode
    rw [encodeVariant, if_pos rfl, Script.toValue, hencode]
    rfl
  | @tupleVariant name variant variants ts ds hfind hlength _ ih =>
    have hts : faithfulItems ts = true := by
      have := faithful_of_mem_variants ht (List.mem_of_find?_eq_some hfind)
      simpa [faithfulVariants] using this
    obtain ⟨vs, hvalues, hread⟩ := tuple_roundTrips hlength ih hts
    refine variant_roundTrips (tagged variant (.list vs)) (some (.list vs)) hfind ?_ rfl rfl (hread _)
    obtain ⟨vs', hitems, heq⟩ := Result.map_eq_ok.mp hvalues
    obtain rfl := Value.list.inj heq
    rw [encodeVariant, if_pos rfl, Script.toValue, hitems]
    rfl
  | @structVariant name variant variants fields ds hfind hnames _ ih =>
    obtain ⟨hdistinct, hfields⟩ :
        (fields.map Field.name).Nodup ∧ faithfulFields fields = true := by
      have := faithful_of_mem_variants ht (List.mem_of_find?_eq_some hfind)
      simpa [faithfulVariants] using this
    obtain ⟨entries, hvalues, hread⟩ := fields_roundTrip hnames hdistinct fun p hp =>
      ih p hp (faithful_of_mem_fields hfields (List.of_mem_zip hp).1)
    refine variant_roundTrips (tagged variant (.config ⟨entries, []⟩)) (some (.config ⟨entries, []⟩))
      hfind ?_ rfl rfl (hread false)
    rw [encodeVariant, if_pos rfl, Script.toValue, hvalues]
    rfl
  | value | script => simp [DataType.isFaithful] at ht

/-- Data of a faithful type that go through a value come back as they were. -/
theorem decode_encode {t : DataType} {d : Data} (ht : t.isFaithful = true) (h : Fits t d) :
    ((t.encode d).toValue >>= fun v => t.decode v) = .ok d := by
  obtain ⟨v, hencode, hdecode⟩ := roundTrips_of_fits h ht
  rw [hencode]
  exact hdecode

/-- The settings of a service, with variants of all four kinds and an integer beyond 63 bits. -/
theorem decode_encode_settings :
    let modes := Data.seq [.variant "Off" .unit, .variant "Fixed" (.integer 7),
      .variant "Pair" (.seq [.integer 1, .integer 255]),
      .variant "Range" (.record [("low", .integer 0), ("high", .integer 4294967295)])]
    let d := Data.record [("name", .string "service"), ("limit", .some (.integer (2 ^ 64 - 1))),
      ("modes", modes), ("ratio", .double (Binary.ofInt .double 3))]
    ((Catalog.settings.encode d).toValue >>= fun v => Catalog.settings.decode v) = .ok d := by
  intro modes d
  have hmodes : ∀ m ∈ [Data.variant "Off" .unit, .variant "Fixed" (.integer 7),
      .variant "Pair" (.seq [.integer 1, .integer 255]),
      .variant "Range" (.record [("low", .integer 0), ("high", .integer 4294967295)])],
      Fits Catalog.mode m := by
    simp only [List.forall_mem_cons]
    refine ⟨.unitVariant rfl, .newtypeVariant rfl (.integer (by decide)),
      .tupleVariant rfl rfl ?_, .structVariant rfl rfl ?_, by simp⟩
    · simp only [List.zip_cons_cons, List.zip_nil_left, List.forall_mem_cons]
      exact ⟨.integer (by decide), .integer (by decide), by simp⟩
    · simp only [List.zip_cons_cons, List.zip_nil_left, List.forall_mem_cons]
      exact ⟨.integer (by decide), .integer (by decide), by simp⟩
  have hfields : Fits Catalog.settings d := by
    refine .struct rfl ?_
    simp only [List.zip_cons_cons, List.zip_nil_left, List.forall_mem_cons]
    exact ⟨.string _, .some (.integer (by decide)), .list hmodes, .double _, by simp⟩
  exact decode_encode (by decide) hfields

end ConfigBinding.Bridge
