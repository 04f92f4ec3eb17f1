import ConfigBinding.Proofs.Bridge.BigIntegers
import ConfigBinding.Proofs.Codec.Reading

/-!
# How reading a value fails

Errors that name the member they are about are final; all others gain a line for each member that
they pass. A type without objects knows of no members, so whatever goes wrong in reading it is not
final (`Result.NeverFinal`). That is seen step by step: what only refuses, or fails for a fault, is
never final, and neither is what is put together from such steps (`Result.FailsOnly`).

The steps are those of the built-in converters, of the readers of described types
(`Bridge.neverFinal_decode`), and of the codecs on their way from the native form. More is known of
the converters: they fail only for a fault of their own, with no other error behind it
(`Registry.faultsOnly_builtinRead`). So do the codecs of plain data, and that is then the only way in
which reading them can fail (`Codec.FaultsOnly.readValue`).
-/

namespace ConfigBinding

open Numeric

/-! ## Steps that only fail in some way -/

/-- If the step fails, it is with an error of a kind. -/
def Result.FailsOnly (kind : Error → Prop) {α : Type} (r : Result α) : Prop :=
  ∀ e, r = .error e → kind e

namespace Result.FailsOnly

variable {kind : Error → Prop} {α β : Type} {r : Result α}

theorem ok (a : α) : FailsOnly kind (.ok a) := nofun

theorem error {e : Error} (h : kind e) : FailsOnly kind (.error e : Result α) := by
  rintro _ ⟨⟩
  exact h

theorem map (h : r.FailsOnly kind) (f : α → β) : FailsOnly kind (f <$> r) :=
  fun e he => h e (Result.map_eq_error.mp he)

theorem bind {f : α → Result β} (h : r.FailsOnly kind) (hf : ∀ a, (f a).FailsOnly kind) :
    FailsOnly kind (r >>= f) := by
  intro e he
  rcases Result.bind_eq_error.mp he with hr | ⟨a, -, ha⟩
  · exact h e hr
  · exact hf a e ha

theorem mapM {f : α → Result β} {xs : List α} (h : ∀ x ∈ xs, (f x).FailsOnly kind) :
    FailsOnly kind (xs.mapM f) := by
  intro e he
  obtain ⟨x, hx, hfails⟩ := Result.exists_of_mapM_eq_error he
  exact h x hx e hfails

end Result.FailsOnly

/-- If the step fails, it is not with a final error. -/
def Result.NeverFinal {α : Type} (r : Result α) : Prop := ∀ e, r = .error e → e.isFinal = false

namespace Result.NeverFinal

variable {α β : Type} {r : Result α} {e : Error}

theorem ok (a : α) : NeverFinal (.ok a) := FailsOnly.ok a

theorem error (h : e.isFinal = false) : NeverFinal (.error e : Result α) := FailsOnly.error h

theorem ofFault (fault : Fault) : NeverFinal (.error (.ofFault fault) : Result α) := error rfl

theorem map (h : r.NeverFinal) (f : α → β) : NeverFinal (f <$> r) := FailsOnly.map h f

theorem bind {f : α → Result β} (h : r.NeverFinal) (hf : ∀ a, (f a).NeverFinal) :
    NeverFinal (r >>= f) :=
  FailsOnly.bind h hf

theorem mapM {f : α → Result β} {xs : List α} (h : ∀ x ∈ xs, (f x).NeverFinal) :
    NeverFinal (xs.mapM f) :=
  FailsOnly.mapM h

theorem mapM_values {f : α → Result β} {entries : List (String × α)}
    (h : ∀ p ∈ entries, (f p.2).NeverFinal) :
    NeverFinal (entries.mapM fun p => do let v ← f p.2; return (p.1, v)) :=
  mapM fun p hp => (h p hp).bind fun _ => ok _

end Result.NeverFinal

/-- If the step fails, it is for a fault, and there is no other error behind it. -/
def Result.FaultsOnly {α : Type} (r : Result α) : Prop :=
  r.FailsOnly fun e => ∃ fault, e = .ofFault fault

namespace Result.FaultsOnly

variable {α β : Type} {r : Result α}

theorem ofFault (fault : Fault) : FaultsOnly (.error (.ofFault fault) : Result α) :=
  FailsOnly.error ⟨fault, rfl⟩

theorem neverFinal (h : r.FaultsOnly) : r.NeverFinal := by
  intro e he
  obtain ⟨fault, rfl⟩ := h e he
  rfl

/-- A step that does not succeed fails for a fault. -/
theorem exists_fault (h : r.FaultsOnly) (hfails : ∀ a, r ≠ .ok a) :
    ∃ fault, r = .error (.ofFault fault) := by
  cases hr : r with
  | ok a => exact absurd hr (hfails a)
  | error e =>
    obtain ⟨fault, rfl⟩ := h e hr
    exact ⟨fault, rfl⟩

/-- Of two steps that fail only for faults, one fails if the other does when they succeed
together. -/
theorem fails_iff {r' : Result β} (h : r.FaultsOnly) (h' : r'.FaultsOnly)
    (hok : (∃ a, r = .ok a) ↔ ∃ b, r' = .ok b) :
    (∃ fault, r = .error (.ofFault fault)) ↔ ∃ fault, r' = .error (.ofFault fault) := by
  constructor
  · rintro ⟨fault, hfault⟩
    refine h'.exists_fault fun b hb => ?_
    obtain ⟨a, ha⟩ := hok.mpr ⟨b, hb⟩
    cases hfault.symm.trans ha
  · rintro ⟨fault, hfault⟩
    refine h.exists_fault fun a ha => ?_
    obtain ⟨b, hb⟩ := hok.mp ⟨a, ha⟩
    cases hfault.symm.trans hb

end Result.FaultsOnly

/-! ## Converters -/

namespace Registry

open Result

theorem faultsOnly_readAccepted (v : Value) (c : Constraint) : (readAccepted v c).FaultsOnly := by
  rw [readAccepted]
  split
  · exact .ok v
  · exact .ofFault _

theorem faultsOnly_convertNumber (v : Value) (c : Constraint) :
    (Deserializer.convertNumber v c).FaultsOnly := by
  rw [Deserializer.convertNumber.eq_def]
  split
  · split
    · exact .ok _
    · exact .ofFault _
  · split
    · exact .ok _
    · exact .ofFault _
  · exact .ok _
  · exact .ok _
  · split
    · exact .ok _
    · exact .ofFault _
  · exact .ok _

theorem faultsOnly_convertDateTime (v : Value) (c : Constraint) :
    (Deserializer.convertDateTime v c).FaultsOnly := by
  rw [Deserializer.convertDateTime.eq_def]
  split
  · split
    · exact .ok _
    · exact .ofFault _
  · exact .ok _

/-- A value without parts is converted as a whole, or handed over. -/
theorem faultsOnly_scalar (v : Value) (c : Constraint) :
    (if Deserializer.number.accepts (some v) c then Deserializer.convertNumber v c
      else if Deserializer.dateTime.accepts (some v) c then Deserializer.convertDateTime v c
      else readAccepted v c : Result Value).FaultsOnly := by
  split
  · exact faultsOnly_convertNumber v c
  split
  · exact faultsOnly_convertDateTime v c
  · exact faultsOnly_readAccepted v c

/-- What is declared as optional fails as what is optional does. -/
theorem faultsOnly_writeOptional {inner : Constraint → Result Value}
    (h : ∀ c, (inner c).FaultsOnly) (c : Constraint) :
    (writeOptional (fun _ => none) inner c).FaultsOnly := by
  obtain ⟨c', hc'⟩ := writeOptional_none inner c
  exact hc' ▸ h c'

mutual

theorem faultsOnly_readWith : ∀ (v : Value) (c : Constraint),
    (readWith (fun _ _ => none) v c).FaultsOnly
  | .list items, c => by
    -- whatever is behind the optionals of the type, the items are the same
    refine faultsOnly_writeOptional (fun c => ?_) c
    split
    · exact (faultsOnly_readItems items _).map _
    · exact faultsOnly_readAccepted _ c
  | .config ⟨entries, comments⟩, c => by
    refine faultsOnly_writeOptional (fun c => ?_) c
    split
    · split
      · exact .ok _
      · exact (faultsOnly_readEntries entries _).bind fun _ => .ok _
    · exact faultsOnly_readAccepted _ c
  | .null, c => faultsOnly_writeOptional (faultsOnly_scalar .null) c
  | .bool b, c => faultsOnly_writeOptional (faultsOnly_scalar (.bool b)) c
  | .number n, c => faultsOnly_writeOptional (faultsOnly_scalar (.number n)) c
  | .string s, c => faultsOnly_writeOptional (faultsOnly_scalar (.string s)) c
  | .dateTime t, c => faultsOnly_writeOptional (faultsOnly_scalar (.dateTime t)) c
  | .bigInt n, c => faultsOnly_writeOptional (faultsOnly_scalar (.bigInt n)) c

theorem faultsOnly_readItems : ∀ (items : List Value) (c : Constraint),
    (readItems (fun _ _ => none) c items).FaultsOnly
  | [], _ => .ok _
  | v :: rest, c => by
    have hrest : ∀ w, (do let rest ← readItems (fun _ _ => none) c rest; return w :: rest :
        Result (List Value)).FaultsOnly := fun w =>
      (faultsOnly_readItems rest c).bind fun _ => .ok _
    rw [readItems]
    split
    · exact .bind (.ok _) hrest
    · exact (faultsOnly_readWith v c).bind hrest

theorem faultsOnly_readEntries : ∀ (entries : List (String × Value)) (c : Constraint),
    (readEntries (fun _ _ => none) c entries).FaultsOnly
  | [], _ => .ok _
  | (k, v) :: rest, c => by
    have hrest : ∀ w, (do let rest ← readEntries (fun _ _ => none) c rest; return (k, w) :: rest :
        Result (List (String × Value))).FaultsOnly := fun w =>
      (faultsOnly_readEntries rest c).bind fun _ => .ok _
    rw [readEntries]
    split
    · exact .bind (.ok _) hrest
    · exact (faultsOnly_readWith v c).bind hrest

end

/-- Reading by the built-in converters alone. -/
theorem faultsOnly_builtinRead (v : Option Value) (c : Constraint) :
    (builtinRead v c).FaultsOnly := by
  cases v with
  | none => exact .ok _
  | some v => exact faultsOnly_readWith v c

end Registry

/-! ## Described types -/

namespace Bridge

open Result

section Readers

variable {α : Type}

theorem neverFinal_refuse (r : Refusal) : (refuse r : Result α).NeverFinal := .error rfl

theorem neverFinal_readInteger (type : IntType) (found : Incoming) :
    (readInteger type found).NeverFinal := by
  rcases readInteger_cases type found with ⟨n, hread⟩ | ⟨r, hread⟩
  · exact hread ▸ .ok _
  · exact hread ▸ neverFinal_refuse r

theorem neverFinal_readFloat (f : Format) (name : String) (found : Incoming) :
    (readFloat f name found).NeverFinal := by
  cases found with
  | float x => exact .ok _
  | integer from_ n =>
    rw [readFloat]
    split
    · exact neverFinal_refuse _
    · exact .ok _
  | _ => exact neverFinal_refuse _

theorem neverFinal_readChar (found : Incoming) : (readChar found).NeverFinal := by
  cases found with
  | str s =>
    rw [readChar]
    split
    · exact .ok _
    · exact neverFinal_refuse _
  | _ => exact neverFinal_refuse _

theorem neverFinal_variantOf (v : Value) : (variantOf v).NeverFinal := by
  rw [variantOf.eq_def]
  split
  · exact .ok _
  · exact .ok _
  · exact neverFinal_refuse _

theorem neverFinal_readComponents {readers : List (Value → Result Data)}
    (h : ∀ read ∈ readers, ∀ v, (read v).NeverFinal) (expected : String) (index : Nat)
    (items : List Value) : (readComponents expected index readers items).NeverFinal := by
  induction readers generalizing index items with
  | nil => exact .ok _
  | cons read readers ih =>
    obtain ⟨hread, hrest⟩ := List.forall_mem_cons.mp h
    cases items with
    | nil => exact neverFinal_refuse _
    | cons v rest => exact (hread v).bind fun _ => (ih hrest _ rest).bind fun _ => .ok _

/-- A field fails neither when it is read nor when it is missing with a final error. -/
structure FieldReader.NeverFinal (field : FieldReader) : Prop where
  read : ∀ v, (field.read v).NeverFinal
  absent : field.absent.NeverFinal

variable {fields : List FieldReader}

theorem neverFinal_readPositional (h : ∀ field ∈ fields, field.NeverFinal) (expected : String)
    (index : Nat) (items : List Value) :
    (readPositional expected index fields items).NeverFinal := by
  induction fields generalizing index items with
  | nil => exact .ok _
  | cons field fields ih =>
    obtain ⟨hfield, hrest⟩ := List.forall_mem_cons.mp h
    cases items with
    | cons v rest => exact (hfield.read v).bind fun _ => (ih hrest _ rest).bind fun _ => .ok _
    | nil =>
      rw [readPositional.eq_def]
      dsimp only
      split
      · exact (ih hrest _ []).bind fun _ => .ok _
      · exact neverFinal_refuse _

theorem neverFinal_readFields (h : ∀ field ∈ fields, field.NeverFinal) (closed : Bool)
    (entries : List (String × Value)) : (readEntries closed fields entries).NeverFinal := by
  induction entries with
  | nil => exact .ok _
  | cons p rest ih =>
    obtain ⟨k, v⟩ := p
    rw [readEntries]
    split
    · rename_i field hfind
      exact ((h field (List.mem_of_find?_eq_some hfind)).read v).bind fun _ =>
        ih.bind fun _ => .ok _
    · split
      · exact neverFinal_refuse _
      · exact ih

theorem neverFinal_completeFields (h : ∀ field ∈ fields, field.NeverFinal)
    (read : List (String × Data)) : (completeFields read fields).NeverFinal := by
  induction fields with
  | nil => exact .ok _
  | cons field fields ih =>
    obtain ⟨hfield, hrest⟩ := List.forall_mem_cons.mp h
    have hfields : ∀ d, (do let ds ← completeFields read fields; return (field.name, d) :: ds :
        Result (List (String × Data))).NeverFinal := fun d => (ih hrest).bind fun _ => .ok _
    rw [completeFields]
    split
    · exact hfields _
    · exact hfield.absent.bind hfields

theorem neverFinal_readNamed (h : ∀ field ∈ fields, field.NeverFinal) (closed : Bool)
    (entries : List (String × Value)) : (readNamed closed fields entries).NeverFinal :=
  (neverFinal_readFields h closed entries).bind fun read =>
    (neverFinal_completeFields h read).map _

theorem neverFinal_readMap {before : Data → Data → Bool} {key value : Value → Result Data}
    (hkey : ∀ v, (key v).NeverFinal)
    (hvalue : ∀ v, (value v).NeverFinal) (read : List (Data × Data))
    (entries : List (String × Value)) : (readMap before key value read entries).NeverFinal := by
  induction entries generalizing read with
  | nil => exact .ok _
  | cons p rest ih =>
    obtain ⟨k, v⟩ := p
    exact (hkey _).bind fun _ => (hvalue v).bind fun _ => ih _

mutual

theorem neverFinal_readValue : ∀ v : Value, (readValue v).NeverFinal
  | .list items => (neverFinal_readValues items).map _
  | .config ⟨entries, _⟩ => (neverFinal_readValueEntries entries []).map _
  | .null => .ok _
  | .bool _ => .ok _
  | .number (.integer _) => .ok _
  | .number (.float _) => .ok _
  | .string _ => .ok _
  | .dateTime _ => .ok _
  | .bigInt n => by
    rw [readValue]
    · -- one of 128 bits is refused, and all others arrive
      split
      · exact .ok _
      · exact .ok _
      · split
        · exact neverFinal_refuse _
        · exact .ok _
      · exact .ok _
      · exact .ok _
      · exact .ok _
      · exact .ok _
    · exact nofun
    · exact nofun

theorem neverFinal_readValues : ∀ items : List Value, (readValues items).NeverFinal
  | [] => .ok _
  | v :: rest => (neverFinal_readValue v).bind fun _ =>
      (neverFinal_readValues rest).bind fun _ => .ok _

theorem neverFinal_readValueEntries : ∀ (entries read : List (String × Value)),
    (readValueEntries read entries).NeverFinal
  | [], _ => .ok _
  | (_, v) :: rest, _ => (neverFinal_readValue v).bind fun _ => neverFinal_readValueEntries rest _

end

end Readers

mutual

/-- Reading data of a described type. -/
theorem neverFinal_decode : ∀ (t : DataType) (v : Value), (t.decode v).NeverFinal
  | .unit, v => by
    rw [DataType.decode]
    split
    · exact .ok _
    · exact neverFinal_refuse _
  | .bool, v => by
    rw [DataType.decode]
    split
    · exact .ok _
    · exact neverFinal_refuse _
  | .integer type, v => neverFinal_readInteger type _
  | .single, v => (neverFinal_readFloat .single "f32" _).map _
  | .double, v => (neverFinal_readFloat .double "f64" _).map _
  | .char, v => neverFinal_readChar _
  | .string, v => by
    rw [DataType.decode]
    split
    · exact .ok _
    · exact neverFinal_refuse _
  | .option t, v => by
    rw [DataType.decode]
    split
    · exact .ok _
    · exact (neverFinal_decode t v).map _
  | .list t, v => by
    rw [DataType.decode]
    split
    · exact (NeverFinal.mapM fun item _ => neverFinal_decode t item).map _
    · exact neverFinal_refuse _
  | .array n t, v => by
    have hreaders : ∀ read ∈ List.replicate n fun item => t.decode item,
        ∀ v, (read v).NeverFinal := by
      intro read hread v
      obtain rfl := List.eq_of_mem_replicate hread
      exact neverFinal_decode t v
    rw [DataType.decode]
    split
    · exact (neverFinal_readComponents hreaders _ 0 _).map _
    · exact neverFinal_refuse _
  | .tuple ts, v => by
    rw [DataType.decode]
    split
    · exact (neverFinal_readComponents (neverFinal_itemReaders ts) _ 0 _).map _
    · exact neverFinal_refuse _
  | .map k t, v => by
    rw [DataType.decode]
    split
    · exact (neverFinal_readMap (neverFinal_decode k) (neverFinal_decode t) [] _).map _
    · exact neverFinal_refuse _
  | .unitStruct name, v => by
    rw [DataType.decode]
    split
    · exact .ok _
    · exact neverFinal_refuse _
  | .newtypeStruct _ t, v => neverFinal_decode t v
  | .tupleStruct name ts, v => by
    rw [DataType.decode]
    split
    · exact (neverFinal_readComponents (neverFinal_itemReaders ts) _ 0 _).map _
    · exact neverFinal_refuse _
  | .struct name closed fields, v => by
    rw [DataType.decode]
    split
    · exact (neverFinal_readPositional (neverFinal_fieldReaders fields) _ 0 _).map _
    · exact neverFinal_readNamed (neverFinal_fieldReaders fields) closed _
    · exact neverFinal_refuse _
  | .enum name variants, v => by
    rw [DataType.decode]
    refine (neverFinal_variantOf v).bind fun p => ?_
    dsimp only
    split
    · rename_i reader hfind
      have hreader := List.mem_of_find?_eq_some hfind
      exact (neverFinal_variantReaders name variants reader hreader _).map _
    · exact neverFinal_refuse _
  | .value, v => (neverFinal_readValue v).map _
  | .script, v => .ok _

theorem neverFinal_itemReaders : ∀ (ts : List DataType), ∀ read ∈ itemReaders ts,
    ∀ v, (read v).NeverFinal
  | [], _, h, _ => nomatch h
  | t :: ts, read, h, v => by
    rcases List.mem_cons.mp h with rfl | h
    · exact neverFinal_decode t v
    · exact neverFinal_itemReaders ts read h v

theorem neverFinal_fieldReaders : ∀ (fields : List Field), ∀ field ∈ fieldReaders fields,
    field.NeverFinal
  | [], _, h => nomatch h
  | ⟨name, t, default⟩ :: fields, field, h => by
    rcases List.mem_cons.mp h with rfl | h
    · refine ⟨neverFinal_decode t, ?_⟩
      dsimp only
      split
      · exact .ok _
      · exact .ok _
      · exact neverFinal_refuse _
    · exact neverFinal_fieldReaders fields field h

theorem neverFinal_variantReaders (typeName : String) : ∀ (variants : List Variant),
    ∀ reader ∈ variantReaders typeName variants, ∀ content, (reader.read content).NeverFinal
  | [], _, h, _ => nomatch h
  | .unit name :: rest, reader, h, content => by
    rcases List.mem_cons.mp h with rfl | h
    · dsimp only
      split
      · exact .ok _
      · exact .ok _
      · exact neverFinal_refuse _
    · exact neverFinal_variantReaders typeName rest reader h content
  | .newtype name t :: rest, reader, h, content => by
    rcases List.mem_cons.mp h with rfl | h
    · cases content with
      | none => exact neverFinal_refuse _
      | some v => exact neverFinal_decode t v
    · exact neverFinal_variantReaders typeName rest reader h content
  | .tuple name ts :: rest, reader, h, content => by
    rcases List.mem_cons.mp h with rfl | h
    · dsimp only
      split
      · exact (neverFinal_readComponents (neverFinal_itemReaders ts) _ 0 _).map _
      · exact neverFinal_refuse _
    · exact neverFinal_variantReaders typeName rest reader h content
  | .struct name fields :: rest, reader, h, content => by
    rcases List.mem_cons.mp h with rfl | h
    · dsimp only
      split
      · exact neverFinal_readNamed (neverFinal_fieldReaders fields) false _
      · exact neverFinal_refuse _
    · exact neverFinal_variantReaders typeName rest reader h content

end

end Bridge

/-! ## Codecs -/

namespace Codec

open Result

variable {o : Options} {c : Codec}

/-- Taking a datum from a native form never fails with a final error. -/
def NeverFinal (c : Codec) (o : Options) : Prop := ∀ v, (c.fromNative o v).NeverFinal

/-- Taking a datum from a native form fails only for a fault of its own. -/
def FaultsOnly (c : Codec) (o : Options) : Prop := ∀ v, (c.fromNative o v).FaultsOnly

theorem FaultsOnly.neverFinal (h : c.FaultsOnly o) : c.NeverFinal o := fun v => (h v).neverFinal

theorem faultsOnly_mismatch {α : Type} (v : Value) (typeName : String) :
    (mismatch v typeName : Result α).FaultsOnly := .ofFault _

theorem faultsOnly_checkRange (type : IntType) (n : Int) : (checkRange type n).FaultsOnly := by
  rw [checkRange]
  split
  · exact .ok _
  · exact .ofFault _

theorem faultsOnly_toInt64 (v : Value) : v.toInt64.FaultsOnly := by
  rw [Value.toInt64.eq_def]
  split
  · split
    · exact .ok _
    · exact .ofFault _
  · split
    · exact .ok _
    · exact .ofFault _
  · exact .ofFault _

theorem faultsOnly_toFloat (v : Value) : v.toFloat.FaultsOnly := by
  cases v with
  | number n => exact .ok _
  | _ => exact .ofFault _

theorem faultsOnly_bool : bool.FaultsOnly o := by
  intro v
  cases v with
  | bool b => exact .ok _
  | _ => exact .map (Result.FaultsOnly.ofFault _) _

theorem faultsOnly_integer (type : IntType) : (integer type).FaultsOnly o := by
  intro v
  rw [integer]
  dsimp only
  split
  · rw [readWide.eq_def]
    split
    · exact faultsOnly_checkRange _ _
    · exact faultsOnly_checkRange _ _
    · exact faultsOnly_mismatch _ _
  · exact (faultsOnly_toInt64 v).bind fun n => faultsOnly_checkRange type n.toInt

theorem faultsOnly_single : single.FaultsOnly o := fun v => (faultsOnly_toFloat v).map _

theorem faultsOnly_double : double.FaultsOnly o := fun v => (faultsOnly_toFloat v).map _

theorem faultsOnly_char : char.FaultsOnly o := by
  intro v
  cases v with
  | string s =>
    rw [char]
    dsimp only
    split
    · exact .ok _
    · exact faultsOnly_mismatch _ _
  | _ => exact faultsOnly_mismatch _ _

theorem faultsOnly_string : string.FaultsOnly o := by
  intro v
  cases v with
  | string s => exact .ok _
  | _ => exact .map (Result.FaultsOnly.ofFault _) _

theorem faultsOnly_dateTime : dateTime.FaultsOnly o := by
  intro v
  cases v with
  | dateTime t => exact .ok _
  | _ => exact faultsOnly_mismatch _ _

theorem faultsOnly_bigInt : bigInt.FaultsOnly o := by
  intro v
  cases v with
  | bigInt n => exact .ok _
  | number n =>
    cases n with
    | integer i => exact .ok _
    | float x => exact faultsOnly_mismatch _ _
  | _ => exact faultsOnly_mismatch _ _

theorem faultsOnly_value : value.FaultsOnly o := fun _ => .ok _

theorem faultsOnly_tree : tree.FaultsOnly o := by
  intro v
  cases v with
  | config t => exact .ok _
  | _ => exact faultsOnly_mismatch _ _

theorem neverFinal_described (type : Bridge.DataType) : (described type).NeverFinal o :=
  fun v => (Bridge.neverFinal_decode type v).map _

theorem NeverFinal.option (h : c.NeverFinal o) : (option c).NeverFinal o := by
  intro v
  rw [Codec.option]
  dsimp only
  split
  · exact .ok _
  · exact (h v).map _

theorem NeverFinal.list (h : c.NeverFinal o) : (list c).NeverFinal o := by
  intro v
  cases v with
  | list items => exact (Result.NeverFinal.mapM fun v _ => h v).map _
  | _ => exact (faultsOnly_mismatch _ _).neverFinal

theorem NeverFinal.map (kind : MapKind) (h : c.NeverFinal o) : (map kind c).NeverFinal o := by
  intro v
  cases v with
  | config t =>
    exact (Result.NeverFinal.mapM_values (f := c.fromNative o) fun p _ => h p.2).bind fun _ => .ok _
  | _ => exact (faultsOnly_mismatch _ _).neverFinal

/-- With the built-in converters, reading never fails with a final error if taking the datum does
not. -/
theorem NeverFinal.read (ho : o.registry.IsBuiltin) (h : c.NeverFinal o) (v : Option Value) :
    (c.read o v).NeverFinal := by
  rw [Codec.read, Registry.read_eq ho]
  refine (Registry.faultsOnly_builtinRead v c.constraint).neverFinal.bind fun n => ?_
  split
  · exact h n
  · exact .ofFault _

/-- With the built-in converters, reading a value on its own fails only for a fault if taking the
datum does. -/
theorem FaultsOnly.readValue (ho : o.registry.IsBuiltin) (h : c.FaultsOnly o) (v : Value) :
    (c.readValue o v).FaultsOnly := by
  rw [Codec.readValue, Codec.read, Registry.read_eq ho]
  refine (Registry.faultsOnly_builtinRead _ c.constraint).bind fun n => ?_
  split
  · exact h n
  · exact Result.FaultsOnly.ofFault _

end Codec

end ConfigBinding
