import ConfigBinding.Proofs.Bridge.RoundTrip

/-!
# The order of keys

A map is kept in ascending order of its keys, and two keys count as the same if neither comes before
the other (`insertSorted`). For types that have an order this is so for equal keys only: the order
of a type tells any two of its data apart (`ties_iff_eq`). What is made of parts is compared part by
part, so the proof goes by the parts as well, and each kind of comparison has its lemma.

Hence an entry of a map that is read makes room for none but a later one with the same key
(`decode_map_keeps`). Storing one entry is the step (`mem_insertSorted`), and `mem_of_readMap` is
the run.
-/

namespace ConfigBinding.Bridge

open Numeric

/-! ## Types with an order -/

/-- The types whose data have an order. Floats have none, and neither has anything that they may be
part of. -/
inductive DataType.Ordered : DataType → Prop where
  | unit : Ordered .unit
  | bool : Ordered .bool
  | integer {type : IntType} : Ordered (.integer type)
  | char : Ordered .char
  | string : Ordered .string
  | option {t : DataType} (h : Ordered t) : Ordered (.option t)
  | list {t : DataType} (h : Ordered t) : Ordered (.list t)
  | array {n : Nat} {t : DataType} (h : Ordered t) : Ordered (.array n t)
  | tuple {ts : List DataType} (h : ∀ t ∈ ts, Ordered t) : Ordered (.tuple ts)
  | map {k t : DataType} (hk : Ordered k) (ht : Ordered t) : Ordered (.map k t)
  | unitStruct {name : String} : Ordered (.unitStruct name)
  | newtypeStruct {name : String} {t : DataType} (h : Ordered t) : Ordered (.newtypeStruct name t)
  | tupleStruct {name : String} {ts : List DataType} (h : ∀ t ∈ ts, Ordered t) :
    Ordered (.tupleStruct name ts)
  | struct {name : String} {closed : Bool} {fields : List Field}
    (h : ∀ field ∈ fields, Ordered field.type) : Ordered (.struct name closed fields)
  | enum {name : String} {variants : List Variant}
    (hnewtype : ∀ variant t, .newtype variant t ∈ variants → Ordered t)
    (htuple : ∀ variant ts, .tuple variant ts ∈ variants → ∀ t ∈ ts, Ordered t)
    (hstruct : ∀ variant fields, .struct variant fields ∈ variants →
      ∀ field ∈ fields, Ordered field.type) :
    Ordered (.enum name variants)

/-! ## Ties -/

/-- Neither of the two comes before the other. -/
def Ties {α : Type} (before : α → α → Bool) (a b : α) : Prop :=
  before a b = false ∧ before b a = false

/-- What fits the type ties with this piece of data exactly if it is the same. -/
def DataType.SinglesOut (t : DataType) (a : Data) : Prop :=
  ∀ b, Fits t b → (Ties t.keyBefore a b ↔ a = b)

/-- A step decides nothing in either direction if neither what it compares first does nor the rest. -/
theorem lexStep_ties {x y r r' : Bool} : lexStep x y r = false ∧ lexStep y x r' = false
    ↔ (x = false ∧ y = false) ∧ r = false ∧ r' = false := by
  cases x <;> cases y <;> simp [lexStep]

/-! ### Parts -/

theorem ties_lexBefore {α : Type} {before : α → α → Bool} {as bs : List α}
    (h : ∀ a ∈ as, ∀ b ∈ bs, Ties before a b ↔ a = b) :
    Ties (lexBefore before) as bs ↔ as = bs := by
  induction as generalizing bs with
  | nil => cases bs <;> simp [Ties, lexBefore]
  | cons a as ih =>
    cases bs with
    | nil => simp [Ties, lexBefore]
    | cons b bs =>
      obtain ⟨ha, has⟩ := List.forall_mem_cons.mp h
      rw [List.cons.injEq, ← ha b List.mem_cons_self,
        ← ih fun a ha b hb => has a ha b (List.mem_cons_of_mem _ hb)]
      exact lexStep_ties

theorem ties_itemsBefore {ts : List DataType} {as bs : List Data} (hlength : ts.length = as.length)
    (ha : ∀ p ∈ ts.zip as, p.1.SinglesOut p.2) (hlength' : ts.length = bs.length)
    (hb : ∀ p ∈ ts.zip bs, Fits p.1 p.2) : Ties (itemsBefore ts) as bs ↔ as = bs := by
  induction ts generalizing as bs with
  | nil =>
    obtain rfl := List.length_eq_zero_iff.mp hlength.symm
    obtain rfl := List.length_eq_zero_iff.mp hlength'.symm
    simp [Ties, itemsBefore]
  | cons t ts ih =>
    obtain _ | ⟨a, as⟩ := as
    · cases hlength
    obtain _ | ⟨b, bs⟩ := bs
    · cases hlength'
    obtain ⟨ha, has⟩ := List.forall_mem_cons.mp ha
    obtain ⟨hb, hbs⟩ := List.forall_mem_cons.mp hb
    rw [List.cons.injEq, ← ha b hb,
      ← ih (Nat.succ.inj hlength) has (Nat.succ.inj hlength') hbs]
    exact lexStep_ties

/-- Fields are compared as the components of a tuple are. -/
theorem fieldsBefore_eq (fields : List Field) (as bs : List (String × Data)) :
    fieldsBefore fields as bs
      = itemsBefore (fields.map Field.type) (as.map Prod.snd) (bs.map Prod.snd) := by
  induction fields generalizing as bs with
  | nil => rw [fieldsBefore, List.map_nil, itemsBefore] <;> simp
  | cons field fields ih =>
    obtain ⟨name, t, default⟩ := field
    cases as with
    | nil => simp [fieldsBefore, itemsBefore]
    | cons p as =>
      cases bs with
      | nil => simp [fieldsBefore, itemsBefore]
      | cons q bs =>
        rw [fieldsBefore, ih]
        rfl

theorem ties_fieldsBefore {fields : List Field} {as bs : List (String × Data)}
    (hnames : fields.map Field.name = as.map Prod.fst)
    (ha : ∀ p ∈ fields.zip as, p.1.type.SinglesOut p.2.2)
    (hnames' : fields.map Field.name = bs.map Prod.fst)
    (hb : ∀ p ∈ fields.zip bs, Fits p.1.type p.2.2) :
    Ties (fieldsBefore fields) as bs ↔ as = bs := by
  have hlength : ∀ {ds : List (String × Data)}, fields.map Field.name = ds.map Prod.fst →
      (fields.map Field.type).length = (ds.map Prod.snd).length := fun h => by
    simpa using congrArg List.length h
  have hparts : ∀ {P : DataType → Data → Prop} {ds : List (String × Data)},
      (∀ p ∈ fields.zip ds, P p.1.type p.2.2) →
      ∀ p ∈ (fields.map Field.type).zip (ds.map Prod.snd), P p.1 p.2 := by
    intro P ds h p hp
    rw [List.zip_map] at hp
    obtain ⟨q, hq, rfl⟩ := List.mem_map.mp hp
    exact h q hq
  have hvalues : Ties (fieldsBefore fields) as bs ↔ as.map Prod.snd = bs.map Prod.snd := by
    rw [← ties_itemsBefore (hlength hnames) (hparts ha) (hlength hnames') (hparts hb), Ties, Ties,
      fieldsBefore_eq, fieldsBefore_eq]
  rw [hvalues]
  constructor
  · intro hsnd
    rw [List.zip_of_prod (hnames.symm.trans hnames') hsnd, ← List.zip_of_prod rfl rfl]
  · exact congrArg _

/-! ### Variants -/

/-- A variant of another name does not matter. -/
theorem variantBefore_cons_of_ne {v : Variant} {m n : String} (hm : v.name ≠ m) (hn : v.name ≠ n)
    (a b : Data) (rest : List Variant) :
    variantBefore m n a b (v :: rest) = variantBefore m n a b rest := by
  simp [variantBefore, hm, hn]

/-- Of two variants with different names, one comes before the other. -/
theorem not_ties_variantBefore {variants : List Variant} {m n : String} {a b : Data}
    (hne : m ≠ n) (hm : ∃ v ∈ variants, v.name = m) :
    ¬ (variantBefore m n a b variants = false ∧ variantBefore n m b a variants = false) := by
  induction variants with
  | nil => simp at hm
  | cons v rest ih =>
    rintro ⟨h, h'⟩
    by_cases hvm : v.name = m
    · subst hvm
      simp [variantBefore, hne] at h
    · by_cases hvn : v.name = n
      · subst hvn
        simp [variantBefore, hvm] at h'
      · rw [variantBefore_cons_of_ne hvm hvn] at h
        rw [variantBefore_cons_of_ne hvn hvm] at h'
        obtain ⟨w, hw, hwm⟩ := hm
        rcases List.mem_cons.mp hw with rfl | hw
        · exact hvm hwm
        · exact ih ⟨w, hw, hwm⟩ ⟨h, h'⟩

theorem variantBefore_self {variants : List Variant} {m : String} {v : Variant}
    (hfind : variants.find? (·.name = m) = some v) (a b : Data) :
    variantBefore m m a b variants = v.contentBefore a b := by
  induction variants with
  | nil => cases hfind
  | cons w rest ih =>
    by_cases hw : w.name = m
    · rw [List.find?_cons_of_pos (by simpa using hw)] at hfind
      obtain rfl := Option.some.inj hfind
      simp [variantBefore, hw]
    · rw [List.find?_cons_of_neg (by simpa using hw)] at hfind
      rw [variantBefore_cons_of_ne hw hw, ih hfind]

/-- What fits a variant as its content. -/
def Variant.Takes : Variant → Data → Prop
  | .unit _, d => d = .unit
  | .newtype _ t, d => Fits t d
  | .tuple _ ts, d => ∃ ds, d = .seq ds ∧ ts.length = ds.length ∧ ∀ p ∈ ts.zip ds, Fits p.1 p.2
  | .struct _ fields, d => ∃ ds, d = .record ds ∧ fields.map Field.name = ds.map Prod.fst
    ∧ ∀ p ∈ fields.zip ds, Fits p.1.type p.2.2

theorem exists_takes_of_fits {name : String} {variants : List Variant} {d : Data}
    (h : Fits (.enum name variants) d) : ∃ n v content, d = .variant n content
      ∧ variants.find? (·.name = n) = some v ∧ v.Takes content := by
  cases h with
  | unitVariant hfind => exact ⟨_, _, _, rfl, hfind, rfl⟩
  | newtypeVariant hfind h => exact ⟨_, _, _, rfl, hfind, h⟩
  | tupleVariant hfind hlength h => exact ⟨_, _, _, rfl, hfind, _, rfl, hlength, h⟩
  | structVariant hfind hnames h => exact ⟨_, _, _, rfl, hfind, _, rfl, hnames, h⟩

/-- Variants are told apart if their contents are. -/
theorem singlesOut_variant {name : String} {variants : List Variant} {m : String} {v : Variant}
    {a : Data} (hm : variants.find? (·.name = m) = some v)
    (h : ∀ b, v.Takes b → (Ties v.contentBefore a b ↔ a = b)) :
    (DataType.enum name variants).SinglesOut (.variant m a) := by
  intro d hd
  obtain ⟨n, w, b, rfl, hn, hb⟩ := exists_takes_of_fits hd
  rw [Data.variant.injEq, Ties, DataType.keyBefore, DataType.keyBefore]
  by_cases hne : m = n
  · subst hne
    obtain rfl := Option.some.inj (hm.symm.trans hn)
    rw [variantBefore_self hm, variantBefore_self hm, eq_self, true_and]
    exact h b hb
  · have hname : v.name = m := by simpa using List.find?_some hm
    have hmem : ∃ v ∈ variants, v.name = m := ⟨v, List.mem_of_find?_eq_some hm, hname⟩
    exact iff_of_false (not_ties_variantBefore hne hmem) fun heq => hne heq.1

/-! ### Types -/

theorem singlesOut_of_fits {t : DataType} {a : Data} (ha : Fits t a) (ht : t.Ordered) :
    t.SinglesOut a := by
  induction ha with
  | single | double | value | script => cases ht
  | unit =>
    intro b hb
    cases hb
    simp [Ties, DataType.keyBefore]
  | unitStruct =>
    intro b hb
    cases hb
    simp [Ties, DataType.keyBefore]
  | bool a =>
    intro b hb
    cases hb with
    | bool b => cases a <;> cases b <;> simp [Ties, DataType.keyBefore]
  | integer =>
    intro b hb
    cases hb
    simp [Ties, DataType.keyBefore]
    omega
  | char a =>
    intro b hb
    cases hb with
    | char b =>
      simp only [Ties, DataType.keyBefore, decide_eq_false_iff_not, Char.not_lt, Data.char.injEq]
      exact ⟨fun h => Char.le_antisymm h.2 h.1, fun h => h ▸ ⟨Char.le_refl a, Char.le_refl a⟩⟩
  | string a =>
    intro b hb
    cases hb with
    | string b =>
      simp only [Ties, DataType.keyBefore, decide_eq_false_iff_not, String.not_lt,
        Data.string.injEq]
      exact ⟨fun h => String.le_antisymm h.2 h.1,
        fun h => h ▸ ⟨String.le_refl a, String.le_refl a⟩⟩
  | none =>
    intro b hb
    cases hb with
    | none => simp [Ties, DataType.keyBefore]
    | some _ => simp [Ties, DataType.keyBefore]
  | some _ ih =>
    cases ht with | option ht =>
    intro b hb
    cases hb with
    | none => simp [Ties, DataType.keyBefore]
    | some hb =>
      rw [Data.some.injEq, ← ih ht _ hb, Ties, DataType.keyBefore, DataType.keyBefore]
      rfl
  | list h ih =>
    cases ht with | list ht =>
    intro b hb
    cases hb with | list hb =>
    rw [Ties, DataType.keyBefore, DataType.keyBefore, Data.seq.injEq]
    exact ties_lexBefore fun a ha b hmem => ih a ha ht b (hb b hmem)
  | array hlength h ih =>
    cases ht with | array ht =>
    intro b hb
    cases hb with | array _ hb =>
    rw [Ties, DataType.keyBefore, DataType.keyBefore, Data.seq.injEq]
    exact ties_lexBefore fun a ha b hmem => ih a ha ht b (hb b hmem)
  | tuple hlength h ih =>
    cases ht with | tuple ht =>
    intro b hb
    cases hb with | tuple hlength' hb =>
    rw [Ties, DataType.keyBefore, DataType.keyBefore, Data.seq.injEq]
    exact ties_itemsBefore hlength (fun p hp => ih p hp (ht _ (List.of_mem_zip hp).1)) hlength' hb
  | map horder hkeys hvalues ihk ihv =>
    cases ht with | map hk ht =>
    intro b hb
    cases hb with | map _ hkeys' hvalues' =>
    rw [Ties, DataType.keyBefore, DataType.keyBefore, Data.map.injEq]
    refine ties_lexBefore fun p hp q hq => ?_
    rw [Prod.ext_iff, ← ihk p hp hk _ (hkeys' q hq), ← ihv p hp ht _ (hvalues' q hq)]
    exact lexStep_ties
  | newtypeStruct h ih =>
    cases ht with | newtypeStruct ht =>
    intro b hb
    cases hb with | newtypeStruct hb =>
    rw [← ih ht _ hb, Ties, DataType.keyBefore, DataType.keyBefore]
    rfl
  | tupleStruct hlength h ih =>
    cases ht with | tupleStruct ht =>
    intro b hb
    cases hb with | tupleStruct hlength' hb =>
    rw [Ties, DataType.keyBefore, DataType.keyBefore, Data.seq.injEq]
    exact ties_itemsBefore hlength (fun p hp => ih p hp (ht _ (List.of_mem_zip hp).1)) hlength' hb
  | struct hnames h ih =>
    cases ht with | struct ht =>
    intro b hb
    cases hb with | struct hnames' hb =>
    rw [Ties, DataType.keyBefore, DataType.keyBefore, Data.record.injEq]
    exact ties_fieldsBefore hnames (fun p hp => ih p hp (ht _ (List.of_mem_zip hp).1)) hnames' hb
  | unitVariant hfind =>
    refine singlesOut_variant hfind ?_
    rintro _ rfl
    simp [Ties, Variant.contentBefore]
  | newtypeVariant hfind _ ih =>
    cases ht with | enum hnewtype _ _ =>
    refine singlesOut_variant hfind fun b hb => ?_
    rw [← ih (hnewtype _ _ (List.mem_of_find?_eq_some hfind)) b hb, Ties, Variant.contentBefore,
      Variant.contentBefore]
    rfl
  | tupleVariant hfind hlength _ ih =>
    cases ht with | enum _ htuple _ =>
    have ht := htuple _ _ (List.mem_of_find?_eq_some hfind)
    refine singlesOut_variant hfind ?_
    rintro _ ⟨bs, rfl, hlength', hb⟩
    rw [Ties, Variant.contentBefore, Variant.contentBefore, Data.seq.injEq]
    exact ties_itemsBefore hlength (fun p hp => ih p hp (ht _ (List.of_mem_zip hp).1)) hlength' hb
  | structVariant hfind hnames _ ih =>
    cases ht with | enum _ _ hstruct =>
    have ht := hstruct _ _ (List.mem_of_find?_eq_some hfind)
    refine singlesOut_variant hfind ?_
    rintro _ ⟨bs, rfl, hnames', hb⟩
    rw [Ties, Variant.contentBefore, Variant.contentBefore, Data.record.injEq]
    exact ties_fieldsBefore hnames (fun p hp => ih p hp (ht _ (List.of_mem_zip hp).1)) hnames' hb

/-- Two keys that fit an ordered type are equal exactly if neither comes before the other. -/
theorem ties_iff_eq {t : DataType} {a b : Data} (ht : t.Ordered) (ha : Fits t a) (hb : Fits t b) :
    Ties t.keyBefore a b ↔ a = b :=
  singlesOut_of_fits ha ht b hb

/-! ## Maps -/

/-- A key that is read from a text fits its type. -/
theorem fits_of_decode_string {t : DataType} (ht : t.Ordered) {s : String} {d : Data}
    (h : t.decode (.string s) = .ok d) : Fits t d := by
  induction ht generalizing d with
  | string =>
    obtain rfl := Except.ok.inj h
    exact .string s
  | char =>
    rw [DataType.decode, Incoming.of, readChar] at h
    split at h
    · obtain rfl := Except.ok.inj h
      exact .char _
    · cases h
  | option _ ih =>
    obtain ⟨content, hcontent, rfl⟩ := Result.map_eq_ok.mp h
    exact .some (ih hcontent)
  | newtypeStruct _ ih => exact .newtypeStruct (ih h)
  | @enum name variants =>
    cases hfind : variants.find? (·.name = s) with
    | none =>
      simp only [DataType.decode, variantOf, find?_variantReaders_eq_none hfind, bind,
        Except.bind] at h
      cases h
    | some v =>
      obtain ⟨reader, hreader, hdecode⟩ := decode_enum name hfind
      rw [hdecode _ none rfl] at h
      obtain ⟨content, hcontent, rfl⟩ := Result.map_eq_ok.mp h
      obtain rfl : v.name = s := by simpa using List.find?_some hfind
      -- a text names a variant, and only a unit variant goes without a content
      cases v with
      | unit =>
        obtain rfl := List.singleton_inj.mp hreader
        obtain rfl := Except.ok.inj hcontent
        exact .unitVariant hfind
      | _ =>
        obtain rfl := List.singleton_inj.mp hreader
        cases hcontent
  | _ => cases h

section Maps

variable {k : DataType} {key value : Data} {read out : List (Data × Data)}
  {entries : List (String × Value)} {p : Data × Data}

/-- Storing an entry brings in no other key. -/
theorem fits_insertSorted (hread : ∀ p ∈ read, Fits k p.1) (hkey : Fits k key) :
    ∀ p ∈ insertSorted k.keyBefore read key value, Fits k p.1 := by
  induction read with
  | nil => exact List.forall_mem_singleton.mpr hkey
  | cons q rest ih =>
    obtain ⟨hq, hrest⟩ := List.forall_mem_cons.mp hread
    rw [insertSorted]
    split
    · exact List.forall_mem_cons.mpr ⟨hq, ih hrest⟩
    · split
      · exact List.forall_mem_cons.mpr ⟨hkey, hread⟩
      · exact List.forall_mem_cons.mpr ⟨hq, hrest⟩

/-- An entry that is stored is in the map, and takes the place of none under another key. -/
theorem mem_insertSorted (hk : k.Ordered) (hread : ∀ p ∈ read, Fits k p.1) (hkey : Fits k key) :
    (key, value) ∈ insertSorted k.keyBefore read key value
      ∧ ∀ p ∈ read, p.1 ≠ key → p ∈ insertSorted k.keyBefore read key value := by
  induction read with
  | nil => exact ⟨List.mem_cons_self, nofun⟩
  | cons q rest ih =>
    obtain ⟨hq, hrest⟩ := List.forall_mem_cons.mp hread
    obtain ⟨hself, hothers⟩ := ih hrest
    rw [insertSorted, List.forall_mem_cons]
    split
    case isTrue =>
      exact ⟨List.mem_cons_of_mem _ hself, fun _ => List.mem_cons_self,
        fun p hp hne => List.mem_cons_of_mem _ (hothers p hp hne)⟩
    case isFalse hbefore =>
      split
      case isTrue =>
        exact ⟨List.mem_cons_self, fun _ => List.mem_cons_of_mem _ List.mem_cons_self,
          fun p hp _ => List.mem_cons_of_mem _ (List.mem_cons_of_mem _ hp)⟩
      case isFalse hbehind =>
        -- neither key comes before the other, so they are the same
        have hsame : q.1 = key := (ties_iff_eq hk hq hkey).mp
          ⟨eq_false_of_ne_true hbefore, eq_false_of_ne_true hbehind⟩
        exact ⟨hsame ▸ List.mem_cons_self, fun hne => absurd hsame hne,
          fun p hp _ => List.mem_cons_of_mem _ hp⟩

theorem readMap_append {before : Data → Data → Bool} {key value : Value → Result Data}
    (front back : List (String × Value)) : readMap before key value read (front ++ back)
      = readMap before key value read front >>= fun mid => readMap before key value mid back := by
  induction front generalizing read with
  | nil => rfl
  | cons e rest ih =>
    obtain ⟨text, v⟩ := e
    rw [List.cons_append, readMap, readMap]
    simp only [ih, bind_assoc]

/-- What is in a map stays there, until an entry with the same key is read. -/
theorem mem_of_readMap (hk : k.Ordered) {value : Value → Result Data}
    (h : readMap k.keyBefore (fun x => k.decode x) value read entries = .ok out)
    (hread : ∀ p ∈ read, Fits k p.1) : (∀ p ∈ out, Fits k p.1)
      ∧ ∀ p ∈ read, (∀ e ∈ entries, k.decode (.string e.1) ≠ .ok p.1) → p ∈ out := by
  induction entries generalizing read with
  | nil =>
    obtain rfl := Except.ok.inj h
    exact ⟨hread, fun p hp _ => hp⟩
  | cons e rest ih =>
    obtain ⟨key, hkey, h⟩ := Result.bind_eq_ok.mp h
    obtain ⟨d, -, h⟩ := Result.bind_eq_ok.mp h
    have hfits := fits_of_decode_string hk hkey
    obtain ⟨hout, hstays⟩ := ih h (fits_insertSorted hread hfits)
    refine ⟨hout, fun p hp hother => ?_⟩
    obtain ⟨hne, hrest⟩ := List.forall_mem_cons.mp hother
    exact hstays p ((mem_insertSorted hk hread hfits).2 p hp fun heq => hne (heq ▸ hkey)) hrest

/-- No key of a map is lost when it is read: an entry makes room for none but a later one with the
same key. -/
theorem decode_map_keeps (hk : k.Ordered) {t : DataType} {front back : List (String × Value)}
    {text : String} {v : Value} {comments : List (String × String)}
    (h : (DataType.map k t).decode (.config ⟨front ++ (text, v) :: back, comments⟩)
      = .ok (.map out)) :
    ∃ key value, k.decode (.string text) = .ok key ∧ t.decode v = .ok value
      ∧ ((∀ e ∈ back, k.decode (.string e.1) ≠ .ok key) → (key, value) ∈ out) := by
  obtain ⟨_, hread, ⟨⟩⟩ := Result.map_eq_ok.mp h
  replace hread : readMap k.keyBefore (fun x => k.decode x) (fun x => t.decode x) []
    (front ++ (text, v) :: back) = .ok out := hread
  rw [readMap_append] at hread
  obtain ⟨mid, hfront, hrest⟩ := Result.bind_eq_ok.mp hread
  obtain ⟨key, hkey, hrest⟩ := Result.bind_eq_ok.mp hrest
  obtain ⟨value, hvalue, hback⟩ := Result.bind_eq_ok.mp hrest
  have hfits := fits_of_decode_string hk hkey
  have hmid := (mem_of_readMap hk hfront nofun).1
  exact ⟨key, value, hkey, hvalue, (mem_of_readMap hk hback (fits_insertSorted hmid hfits)).2 _
    (mem_insertSorted hk hmid hfits).1⟩

-- the variants of an enumeration come in their order, whatever their names are
example : (DataType.map (.enum "Level" [.unit "Info", .unit "Debug"]) .bool).decode
    (.config ⟨[("Debug", .bool true), ("Info", .bool false)], []⟩)
      = .ok (.map [(.variant "Info" .unit, .bool false), (.variant "Debug" .unit, .bool true)]) :=
  rfl

end Maps

end ConfigBinding.Bridge
