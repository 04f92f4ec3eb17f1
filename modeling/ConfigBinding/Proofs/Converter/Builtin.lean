import ConfigBinding.Converter.Lemmas
import ConfigBinding.Proofs.Sequence

/-!
# Conversion without converters of a caller

What the built-in converters do by themselves. Writing changes nothing: a tree stores the native
form as it is (`Registry.write_eq`). Reading goes by the shape that is asked for; of each shape one
lemma says what becomes of a value, and for the shapes of containers it says so by means of reading
the parts. Whatever the shape, the null marker comes out only where it went in
(`Registry.isNull_of_read`).
-/

namespace ConfigBinding.Registry

/-- A registry to which no caller has added anything. -/
def IsBuiltin (r : Registry) : Prop := r.serializers = [] ∧ r.deserializers = []

theorem isBuiltin_builtin : builtin.IsBuiltin := ⟨rfl, rfl⟩

/-- Without converters of a caller, what is declared as optional is converted as what is optional,
however many optionals there are around it. -/
theorem writeOptional_none (inner : Constraint → Result Value) :
    ∀ c, ∃ c', writeOptional (fun _ => none) inner c = inner c'
  | ⟨shape, name, []⟩ => by
    rw [writeOptional]
    by_cases h : shape = .optional
    · exact ⟨.any, by simp [h]⟩
    · exact ⟨⟨shape, name, []⟩, by simp [h]⟩
  | ⟨shape, name, element :: rest⟩ => by
    rw [writeOptional]
    by_cases h : shape = .optional
    · obtain ⟨c', hc'⟩ := writeOptional_none inner element
      exact ⟨c', by simpa only [if_pos h] using hc'⟩
    · exact ⟨⟨shape, name, element :: rest⟩, by simp [h]⟩

/-! ## Writing -/

mutual

theorem writeWith_none : ∀ (v : Value) (c : Constraint), writeWith (fun _ _ => none) v c = .ok v
  | .null, _ => rfl
  | .list items, c => by
    obtain ⟨c', hc'⟩ := writeOptional_none
      (fun c => .list <$> writeItems (fun _ _ => none) (Serializer.listElement c) items) c
    rw [writeWith, hc', writeItems_none _ items]
    rfl
  | .config ⟨entries, comments⟩, c => by
    rw [writeWith]
    obtain ⟨c', hc'⟩ := writeOptional_none (fun c =>
      if Serializer.keepsTree c then .ok (.config ⟨entries, comments⟩)
      else do
        let entries ← writeEntries (fun _ _ => none) (Serializer.mapElement c) entries
        return .config ⟨entries, comments⟩) c
    rw [hc', writeEntries_none _ entries]
    split <;> rfl
  | .bool b, c => (writeOptional_none (fun _ => .ok (.bool b)) c).elim fun _ h => h
  | .number n, c => (writeOptional_none (fun _ => .ok (.number n)) c).elim fun _ h => h
  | .string s, c => (writeOptional_none (fun _ => .ok (.string s)) c).elim fun _ h => h
  | .dateTime t, c => (writeOptional_none (fun _ => .ok (.dateTime t)) c).elim fun _ h => h
  | .bigInt n, c => (writeOptional_none (fun _ => .ok (.bigInt n)) c).elim fun _ h => h

theorem writeItems_none : ∀ (c : Constraint) (items : List Value),
    writeItems (fun _ _ => none) c items = .ok items
  | _, [] => rfl
  | c, v :: rest => by
    rw [writeItems, writeWith_none v c, writeItems_none c rest]
    rfl

theorem writeEntries_none : ∀ (c : Constraint) (entries : List (String × Value)),
    writeEntries (fun _ _ => none) c entries = .ok entries
  | _, [] => rfl
  | c, (k, v) :: rest => by
    rw [writeEntries, writeWith_none v c, writeEntries_none c rest]
    rfl

end

/-- A tree stores the native form as it is. -/
theorem write_eq {r : Registry} (h : r.IsBuiltin) (v : Value) (c : Constraint) :
    r.write v c = .ok v := by
  -- however often a caller's converters may be asked, there is none to ask
  have hown : ∀ again, r.ownWriting? again = fun _ _ => none := fun again => by
    funext v c
    simp [ownWriting?, h.1]
  rw [write]
  cases r.nesting with
  | zero => rw [writeNested, hown, writeWith_none]
  | succ nesting => rw [writeNested, hown, writeWith_none]

/-! ## Reading -/

/-- Reading asks the caller's deserializers first, with some limit on what they ask in turn. -/
theorem exists_read_eq (r : Registry) : ∃ again, r.read = readOptionWith (r.ownReading? again) := by
  unfold read
  cases r.nesting with
  | zero => exact ⟨_, rfl⟩
  | succ nesting => exact ⟨_, rfl⟩

/-- A list for a list is read item by item, if no converter of the caller takes it. -/
theorem readOptionWith_list {own : Option Value → Constraint → Option (Result Value)}
    {items : List Value} {name : String} {element : Constraint}
    (h : own (some (.list items)) ⟨.list, name, [element]⟩ = none) :
    readOptionWith own (some (.list items)) ⟨.list, name, [element]⟩
      = .list <$> items.mapM fun item => readOptionWith own (Deserializer.present item) element := by
  rw [readOptionWith_eq, h]
  rfl

/-- A map for a map is read value by value, if no converter of the caller takes it. -/
theorem readOptionWith_map {own : Option Value → Constraint → Option (Result Value)}
    {t : Tree} {name : String} {element : Constraint}
    (h : own (some (.config t)) ⟨.map, name, [element]⟩ = none) :
    readOptionWith own (some (.config t)) ⟨.map, name, [element]⟩
      = Serializer.convertEntries
        (fun item => readOptionWith own (Deserializer.present item) element) t := by
  rw [readOptionWith_eq, h]
  rfl

/-- Reading by the built-in converters alone. -/
def builtinRead : Reading := readOptionWith fun _ _ => none

theorem read_eq {r : Registry} (h : r.IsBuiltin) : r.read = builtinRead := by
  obtain ⟨again, hread⟩ := r.exists_read_eq
  have hown : r.ownReading? again = fun _ _ => none := by
    funext v c
    simp [ownReading?, h.2]
  rw [hread, hown, builtinRead]

/-- No value becomes the null marker, whatever is asked for. -/
theorem builtinRead_none (c : Constraint) : builtinRead none c = .ok .null := rfl

/-- A value for an optional target is read as what is optional. -/
theorem builtinRead_optional (v : Value) (name : String) (element : Constraint) :
    builtinRead (some v) ⟨.optional, name, [element]⟩ = builtinRead (some v) element := by
  cases v with
  | config t =>
    obtain ⟨entries, comments⟩ := t
    rfl
  | _ => rfl

/-- A list for a list is read item by item. -/
theorem builtinRead_list (items : List Value) (name : String) (element : Constraint) :
    builtinRead (some (.list items)) ⟨.list, name, [element]⟩
      = .list <$> items.mapM fun item => builtinRead (Deserializer.present item) element :=
  readOptionWith_list rfl

/-- The entries of a map are converted one by one; keys, order and comments stay. -/
theorem convertEntries_eq_ok {f : Value → Result Value} {t : Tree} {n : Value} :
    Serializer.convertEntries f t = .ok n ↔ ∃ entries, n = .config ⟨entries, t.comments⟩
      ∧ List.Forall₂ (fun p q => p.1 = q.1 ∧ f p.2 = .ok q.2) t.entries entries := by
  rw [Serializer.convertEntries, Result.bind_eq_ok]
  constructor
  · rintro ⟨entries, hentries, hn⟩
    exact ⟨entries, (Except.ok.inj hn).symm, (Result.mapM_values_eq_ok (f := f)).mp hentries⟩
  · rintro ⟨entries, rfl, hentries⟩
    exact ⟨entries, (Result.mapM_values_eq_ok (f := f)).mpr hentries, rfl⟩

/-- A map for a map is read value by value. -/
theorem builtinRead_map (t : Tree) (name : String) (element : Constraint) :
    builtinRead (some (.config t)) ⟨.map, name, [element]⟩
      = Serializer.convertEntries (fun item => builtinRead (Deserializer.present item) element) t :=
  readOptionWith_map rfl

/-- A map for an object or for a map as such is handed over as it is. -/
theorem builtinRead_kept {c : Constraint} (h : Serializer.keepsTree c = true) (t : Tree) :
    builtinRead (some (.config t)) c = .ok (.config t) := by
  obtain ⟨shape, name, arguments⟩ := c
  obtain ⟨entries, comments⟩ := t
  cases shape with
  | object | config => cases arguments <;> rfl
  | _ => cases h

/-- What is handed over so is accepted. -/
theorem accepts_of_keepsTree {c : Constraint} (h : Serializer.keepsTree c = true) (t : Tree) :
    c.accepts (.config t) = true := by
  obtain ⟨shape, name, arguments⟩ := c
  cases shape with
  | object | config => rfl
  | _ => cases h

/-- A value that is not converted part by part becomes a number or a date-time, or is handed over if
the target accepts it. -/
theorem builtinRead_scalar {v : Value} {c : Constraint} (hoptional : c.shape ≠ .optional)
    (hitems : Deserializer.takesItems c = false ∨ v.isList = false)
    (htree : Deserializer.takesTree c = false ∨ v.isConfig = false) :
    builtinRead (some v) c =
      if Deserializer.number.accepts (some v) c then Deserializer.convertNumber v c
      else if Deserializer.dateTime.accepts (some v) c then Deserializer.convertDateTime v c
      else readAccepted v c := by
  have hlist : Deserializer.list.accepts (some v) c = false := by
    rcases hitems with h | h
    · exact Bool.and_eq_false_imp.mpr fun h' => absurd (h.symm.trans h') (by decide)
    · cases v <;> first | exact Bool.and_false _ | cases h
  have htree : Deserializer.tree.accepts (some v) c = false := by
    rcases htree with h | h
    · exact Bool.and_eq_false_imp.mpr fun h' => absurd (h.symm.trans h') (by decide)
    · cases v <;> first | exact Bool.and_false _ | cases h
  have heq : builtinRead (some v) c = readBuiltin builtinRead (some v) c :=
    readOptionWith_eq (fun _ _ => none) (some v) c
  rw [heq, readBuiltin_scalar builtinRead hoptional hlist htree]

/-- Whether a value is a number of any kind. -/
def isNumber : Value → Bool
  | .number _ | .bigInt _ => true
  | _ => false

/-- For a number, a number is converted, and another value handed over if the target accepts it. -/
theorem builtinRead_numeric {c : Constraint} (h : Deserializer.isNumeric c.shape = true) (v : Value) :
    builtinRead (some v) c
      = if isNumber v then Deserializer.convertNumber v c else readAccepted v c := by
  obtain ⟨shape, name, arguments⟩ := c
  have hnumber : Deserializer.number.accepts (some v) ⟨shape, name, arguments⟩ = isNumber v := by
    show (Deserializer.isNumeric shape && _) = _
    rw [show Deserializer.isNumeric shape = true from h, Bool.true_and]
    cases v <;> rfl
  have hdateTime : Deserializer.dateTime.accepts (some v) ⟨shape, name, arguments⟩ = false := by
    cases shape <;> first | rfl | cases h
  have hitems : Deserializer.takesItems ⟨shape, name, arguments⟩ = false := by
    cases shape <;> first | rfl | cases h
  have htree : Deserializer.takesTree ⟨shape, name, arguments⟩ = false := by
    cases shape <;> first | rfl | cases h
  have hoptional : Constraint.shape ⟨shape, name, arguments⟩ ≠ .optional := by
    intro hoptional
    rw [hoptional] at h
    cases h
  rw [builtinRead_scalar hoptional (.inl hitems) (.inl htree), hnumber, hdateTime]
  rfl

/-- For a date-time, a text and a date-time are converted, and no other value is accepted. -/
theorem builtinRead_dateTime {v : Value} {name : String} :
    builtinRead (some v) (.plain .dateTime name)
      = match v with
        | .string _ | .dateTime _ => Deserializer.convertDateTime v (.plain .dateTime name)
        | _ => readAccepted v (.plain .dateTime name) := by
  have hoptional : (Constraint.plain .dateTime name).shape ≠ .optional := by
    rintro ⟨⟩
  rw [builtinRead_scalar hoptional (.inl rfl) (.inl rfl)]
  cases v <;> rfl

/-- Whether a value as a whole is converted for a target: into what is optional, into a number, or
into a date-time. -/
def convertsWhole (c : Constraint) : Bool :=
  c.shape = .optional || Deserializer.isNumeric c.shape || c.shape = .dateTime

/-- What is handed over, and accepted, is an accepted value that is converted neither as a whole nor
part by part. -/
theorem builtinRead_present {v n : Value} {c : Constraint} (hwhole : convertsWhole c = false)
    (hitems : Deserializer.takesItems c = false ∨ v.isList = false)
    (htree : Deserializer.takesTree c = false ∨ v.isConfig = false) :
    builtinRead (Deserializer.present v) c = .ok n ∧ c.accepts n = true
      ↔ n = v ∧ c.accepts v = true := by
  obtain ⟨⟨hoptional, hnumeric⟩, hdateTime⟩ :
      (c.shape ≠ .optional ∧ Deserializer.isNumeric c.shape = false) ∧ c.shape ≠ .dateTime := by
    simpa [convertsWhole] using hwhole
  have hread : builtinRead (some v) c = readAccepted v c := by
    rw [builtinRead_scalar hoptional hitems htree, if_neg (by simp [Deserializer.number, hnumeric]),
      if_neg (by simp [Deserializer.dateTime, hdateTime])]
  have hsome : builtinRead (some v) c = .ok n ∧ c.accepts n = true
      ↔ n = v ∧ c.accepts v = true := by
    rw [hread, readAccepted]
    constructor
    · rintro ⟨hn, haccepts⟩
      split at hn <;> cases hn
      exact ⟨rfl, haccepts⟩
    · rintro ⟨rfl, haccepts⟩
      exact ⟨if_pos haccepts, haccepts⟩
  cases v with
  | null =>
    show Except.ok .null = .ok n ∧ _ ↔ _
    constructor
    · rintro ⟨hn, haccepts⟩
      obtain rfl := Except.ok.inj hn
      exact ⟨rfl, haccepts⟩
    · rintro ⟨rfl, haccepts⟩
      exact ⟨rfl, haccepts⟩
  | _ => exact hsome

mutual

theorem readWith_any : ∀ v : Value, readWith (fun _ _ => none) v .any = .ok v
  | .null => rfl
  | .bool _ => rfl
  | .number _ => rfl
  | .string _ => rfl
  | .dateTime _ => rfl
  | .bigInt _ => rfl
  | .list items => by
    show Value.list <$> readItems (fun _ _ => none) .any items = _
    rw [readItems_any items]
    rfl
  | .config ⟨entries, comments⟩ => by
    show (do
      let entries ← readEntries (fun _ _ => none) .any entries
      return Value.config ⟨entries, comments⟩ : Result Value) = _
    rw [readEntries_any entries]
    rfl

theorem readItems_any : ∀ items : List Value,
    readItems (fun _ _ => none) .any items = .ok items
  | [] => rfl
  | v :: rest => by
    rw [readItems, readWith_any v, readItems_any rest]
    cases v <;> rfl

theorem readEntries_any : ∀ entries : List (String × Value),
    readEntries (fun _ _ => none) .any entries = .ok entries
  | [] => rfl
  | (k, v) :: rest => by
    rw [readEntries, readWith_any v, readEntries_any rest]
    cases v <;> rfl

end

/-- Where anything is wanted, a value is handed over as it is, to every depth. -/
theorem builtinRead_any (v : Value) : builtinRead (some v) .any = .ok v := readWith_any v

theorem isNull_of_convertNumber {v n : Value} {c : Constraint}
    (h : Deserializer.convertNumber v c = .ok n) (hv : v.isNull = false) : n.isNull = false := by
  rw [Deserializer.convertNumber.eq_def] at h
  split at h
  · split at h <;> cases h
    rfl
  · split at h <;> cases h
    rfl
  · cases h
    rfl
  · cases h
    rfl
  · split at h <;> cases h
    rfl
  · cases h
    exact hv

theorem isNull_of_convertDateTime {v n : Value} {c : Constraint}
    (h : Deserializer.convertDateTime v c = .ok n) (hv : v.isNull = false) : n.isNull = false := by
  rw [Deserializer.convertDateTime.eq_def] at h
  split at h
  · split at h <;> cases h
    rfl
  · cases h
    exact hv

theorem eq_of_readAccepted {v n : Value} {c : Constraint} (h : readAccepted v c = .ok n) :
    n = v := by
  rw [readAccepted] at h
  split at h <;> cases h
  rfl

/-- The null marker is read from nothing else than the null marker. -/
theorem isNull_of_builtinRead {v n : Value} {c : Constraint} (h : builtinRead (some v) c = .ok n)
    (hv : v.isNull = false) : n.isNull = false := by
  have hscalar : ∀ c', (if Deserializer.number.accepts (some v) c'
      then Deserializer.convertNumber v c'
      else if Deserializer.dateTime.accepts (some v) c' then Deserializer.convertDateTime v c'
      else readAccepted v c') = .ok n → n.isNull = false := by
    intro c' h
    split at h
    · exact isNull_of_convertNumber h hv
    split at h
    · exact isNull_of_convertDateTime h hv
    · exact eq_of_readAccepted h ▸ hv
  cases v with
  | null => cases hv
  | list items =>
    obtain ⟨c', hc'⟩ := writeOptional_none (fun c =>
      if Deserializer.takesItems c
      then .list <$> readItems (fun _ _ => none) c.elementOrAny items
      else readAccepted (.list items) c) c
    have h := hc'.symm.trans h
    split at h
    · obtain ⟨_, -, rfl⟩ := Result.map_eq_ok.mp h
      rfl
    · exact eq_of_readAccepted h ▸ hv
  | config t =>
    obtain ⟨entries, comments⟩ := t
    obtain ⟨c', hc'⟩ := writeOptional_none (fun c =>
      if Deserializer.takesTree c then
        if Serializer.keepsTree c then .ok (.config ⟨entries, comments⟩)
        else do
          let entries ← readEntries (fun _ _ => none) c.elementOrAny entries
          return .config ⟨entries, comments⟩
      else readAccepted (.config ⟨entries, comments⟩) c) c
    have h := hc'.symm.trans h
    split at h
    · split at h
      · cases h
        rfl
      · obtain ⟨_, -, hn⟩ := Result.bind_eq_ok.mp h
        cases hn
        rfl
    · exact eq_of_readAccepted h ▸ hv
  | bool | number | string | dateTime | bigInt =>
    obtain ⟨c', hc'⟩ := writeOptional_none (fun c =>
      if Deserializer.number.accepts (some _) c then Deserializer.convertNumber _ c
      else if Deserializer.dateTime.accepts (some _) c then Deserializer.convertDateTime _ c
      else readAccepted _ c) c
    exact hscalar c' (hc'.symm.trans h)

end ConfigBinding.Registry
