import ConfigBinding.Codec.Container
import ConfigBinding.Proofs.Converter.Builtin
import ConfigBinding.Proofs.Numeric.Exact

/-!
# Reading by the built-in converters

What each codec reads, when no caller has added a converter. Reading has three steps: conversion,
the check that the type accepts what came out, and the way from the native form. Conversion and
check run over the whole value before the last step begins, but each of them works part by part, so
the three steps can be taken for each part alone: a list is read exactly when its items are
(`Codec.readValue_list`), a map exactly when its values are (`Codec.readValue_map`), and what is
optional exactly when it is nothing or can be read as something (`Codec.readValue_option`).
-/

namespace ConfigBinding

open Numeric

namespace Value

/-- The rational number that a value is, if it is a finite number. -/
def toRat? : Value → Option ℚ
  | .number (.integer i) => some i.toInt
  | .number (.float x) => x.toRat?
  | .bigInt n => some n
  | _ => none

/-- The number of double precision nearest to the number that a value is. -/
def toDouble? : Value → Option Binary64
  | .number n => some n.toFloat
  | .bigInt n => some (Binary.ofInt .double n)
  | _ => none

/-- The integer that a value is taken for where integers of any size are wanted. -/
def toWhole? : Value → Option Int
  | .number n => n.toInt64?.map Int64.toInt
  | .bigInt n => some n
  | _ => none

theorem isList_iff {v : Value} : v.isList = true ↔ ∃ items, v = .list items := by
  refine ⟨fun h => ?_, fun ⟨items, hitems⟩ => hitems ▸ rfl⟩
  cases v with
  | list items => exact ⟨items, rfl⟩
  | _ => cases h

theorem isConfig_iff {v : Value} : v.isConfig = true ↔ ∃ t, v = .config t := by
  refine ⟨fun h => ?_, fun ⟨t, ht⟩ => ht ▸ rfl⟩
  cases v with
  | config t => exact ⟨t, rfl⟩
  | _ => cases h

end Value

/-- A number is taken for a 64-bit integer exactly when it is that integer. -/
theorem Number.toInt64?_eq_some_iff {n : Number} {i : Int64} :
    n.toInt64? = some i ↔ (Value.number n).toRat? = some (i.toInt : ℚ) := by
  cases n with
  | integer m =>
    rw [Number.toInt64?, Value.toRat?, Option.some.injEq, Option.some.injEq, Int.cast_inj,
      Int64.toInt_inj]
  | float x =>
    have hrange := And.intro i.le_toInt i.toInt_lt
    rw [Number.toInt64?, Value.toRat?, ← Binary.toInt?_eq_some_iff]
    constructor
    · intro h
      split at h
      · rename_i k hk
        split at h
        · rename_i hk64
          obtain rfl := Option.some.inj h
          rw [hk, Int64.toInt_ofInt_of_le hk64.1 hk64.2]
        · cases h
      · cases h
    · intro h
      simp only [h, if_pos hrange, Int64.ofInt_toInt]

namespace Registry

/-- What is converted for an integer is a value that is a 64-bit integer. -/
theorem builtinRead_integer {v : Value} {i : Int64} {name : String} :
    builtinRead (Deserializer.present v) (.plain .integer name) = .ok (.number (.integer i))
      ↔ v.toRat? = some (i.toInt : ℚ) := by
  have hread := builtinRead_numeric (c := .plain .integer name) rfl
  cases v with
  | null => constructor <;> intro h <;> cases h
  | number n =>
    have hconvert : builtinRead (Deserializer.present (.number n)) (.plain .integer name)
        = Deserializer.convertNumber (.number n) (.plain .integer name) := hread (.number n)
    rw [hconvert, ← Number.toInt64?_eq_some_iff]
    unfold Deserializer.convertNumber
    cases hn : n.toInt64? <;> simp [hn, Constraint.plain, Constraint.shape]
  | bigInt n =>
    have hconvert : builtinRead (Deserializer.present (.bigInt n)) (.plain .integer name)
        = (if -2 ^ 63 ≤ n ∧ n < 2 ^ 63 then .ok (.number (.integer (Int64.ofInt n)))
          else .error (.ofFault (.number (toString n) name)) : Result Value) := hread (.bigInt n)
    have hrange := And.intro i.le_toInt i.toInt_lt
    rw [hconvert, Value.toRat?, Option.some.injEq, Int.cast_inj]
    constructor
    · intro h
      split at h <;> cases h
      rename_i hn
      rw [Int64.toInt_ofInt_of_le hn.1 hn.2]
    · rintro rfl
      rw [if_pos hrange, Int64.ofInt_toInt]
  | _ =>
    constructor
    · intro h
      cases (hread _).symm.trans h
    · rintro ⟨⟩

/-- What is converted for a float is any number. -/
theorem builtinRead_float {v n : Value} {name : String} :
    builtinRead (Deserializer.present v) (.plain .float name) = .ok n
        ∧ Constraint.accepts (.plain .float name) n = true
      ↔ ∃ x, v.toDouble? = some x ∧ n = .number (.float x) := by
  have hread := builtinRead_numeric (c := .plain .float name) rfl
  have hdouble : ∀ x : Binary64, (.ok (.number (.float x)) : Result Value) = .ok n
      ∧ Constraint.accepts (.plain .float name) n = true ↔ n = .number (.float x) := by
    intro x
    constructor
    · rintro ⟨hn, -⟩
      exact (Except.ok.inj hn).symm
    · rintro rfl
      exact ⟨rfl, rfl⟩
  cases v with
  | null =>
    constructor
    · rintro ⟨hn, haccepts⟩
      obtain rfl := Except.ok.inj hn
      cases haccepts
    · rintro ⟨x, hx, -⟩
      cases hx
  | number m =>
    refine (hread (.number m)).symm ▸ (hdouble m.toFloat).trans ?_
    simp [Value.toDouble?]
  | bigInt m =>
    refine (hread (.bigInt m)).symm ▸ (hdouble (Binary.ofInt .double m)).trans ?_
    simp [Value.toDouble?]
  | _ =>
    constructor
    · rintro ⟨hn, -⟩
      cases (hread _).symm.trans hn
    · rintro ⟨x, hx, -⟩
      cases hx

/-- What is converted for an integer of any size is a big integer, or a number that is a 64-bit
integer. -/
theorem builtinRead_bigInt {v n : Value} {name : String} :
    builtinRead (Deserializer.present v) (.plain .bigInt name) = .ok n
        ∧ Constraint.accepts (.plain .bigInt name) n = true
      ↔ ∃ k, v.toWhole? = some k ∧ n = .bigInt k := by
  have hread := builtinRead_numeric (c := .plain .bigInt name) rfl
  cases v with
  | null =>
    constructor
    · rintro ⟨hn, haccepts⟩
      obtain rfl := Except.ok.inj hn
      cases haccepts
    · rintro ⟨k, hk, -⟩
      cases hk
  | number m =>
    have hconvert : builtinRead (Deserializer.present (.number m)) (.plain .bigInt name)
        = Deserializer.convertNumber (.number m) (.plain .bigInt name) := hread (.number m)
    rw [hconvert, Value.toWhole?]
    unfold Deserializer.convertNumber
    cases hm : m.toInt64? with
    | none => simp [hm, Constraint.plain, Constraint.shape]
    | some i =>
      simp only [hm, Constraint.plain, Constraint.shape, Option.map_some]
      constructor
      · rintro ⟨hn, -⟩
        exact ⟨i.toInt, rfl, (Except.ok.inj hn).symm⟩
      · rintro ⟨k, hk, rfl⟩
        obtain rfl := Option.some.inj hk
        exact ⟨rfl, rfl⟩
  | bigInt m =>
    have hconvert : builtinRead (Deserializer.present (.bigInt m)) (.plain .bigInt name)
        = .ok (.bigInt m) := hread (.bigInt m)
    rw [hconvert, Value.toWhole?]
    constructor
    · rintro ⟨hn, -⟩
      exact ⟨m, rfl, (Except.ok.inj hn).symm⟩
    · rintro ⟨k, hk, rfl⟩
      obtain rfl := Option.some.inj hk
      exact ⟨rfl, rfl⟩
  | _ =>
    constructor
    · rintro ⟨hn, -⟩
      cases (hread _).symm.trans hn
    · rintro ⟨k, hk, -⟩
      cases hk

/-- What is converted for a date-time is a date-time or a text that names one. -/
theorem builtinRead_dateTime_eq_ok {v : Value} {t : Time.Instant} {name : String} :
    builtinRead (Deserializer.present v) (.plain .dateTime name) = .ok (.dateTime t)
      ↔ v = .dateTime t ∨ ∃ s, v = .string s ∧ Time.Instant.parseRfc3339 s = .ok t := by
  cases v with
  | null =>
    constructor
    · rintro ⟨⟩
    · rintro (h | ⟨s, h, -⟩) <;> cases h
  | string s =>
    have hconvert : builtinRead (Deserializer.present (.string s)) (.plain .dateTime name)
        = Deserializer.convertDateTime (.string s) (.plain .dateTime name) := builtinRead_dateTime
    rw [hconvert]
    unfold Deserializer.convertDateTime
    cases hparse : Time.Instant.parseRfc3339 s <;> simp [hparse]
  | dateTime t' =>
    have hconvert : builtinRead (Deserializer.present (.dateTime t')) (.plain .dateTime name)
        = .ok (.dateTime t') := builtinRead_dateTime
    rw [hconvert]
    simp
  | _ =>
    constructor
    · intro h
      cases builtinRead_dateTime.symm.trans h
    · rintro (h | ⟨s, h, -⟩) <;> cases h

end Registry

namespace Codec

variable {c : Codec} {o : Options}

/-- The three steps of reading: conversion, check, and the way from the native form. -/
theorem readValue_eq_ok {v : Value} {d : Datum} :
    c.readValue o v = .ok d ↔ ∃ n, o.registry.read (Deserializer.present v) c.constraint = .ok n
      ∧ c.constraint.accepts n = true ∧ c.fromNative o n = .ok d := by
  have hpresent : (if v.isNull then none else some v) = Deserializer.present v := by
    cases v <;> rfl
  rw [readValue, read, hpresent, Result.bind_eq_ok]
  constructor
  · rintro ⟨n, hn, hd⟩
    split at hd
    · exact ⟨n, hn, by assumption, hd⟩
    · cases hd
  · rintro ⟨n, hn, haccepts, hd⟩
    exact ⟨n, hn, by rw [if_pos haccepts, hd]⟩

/-! ## Containers, part by part -/

/-- A list is read when each of its items is, provided that it is converted item by item. -/
theorem readValue_list_iff {items : List Value} {d : Datum}
    (hread : o.registry.read (some (.list items)) (list c).constraint
      = .list <$> items.mapM fun v => o.registry.read (Deserializer.present v) c.constraint) :
    (list c).readValue o (.list items) = .ok d ↔ ∃ ds, d = .list ds
      ∧ List.Forall₂ (fun v d => c.readValue o v = .ok d) items ds := by
  have hconstraint : (list c).constraint = ⟨.list, listName c.name, [c.constraint]⟩ := rfl
  simp only [readValue_eq_ok]
  constructor
  · rintro ⟨n, hn, haccepts, hd⟩
    -- the three steps of each item are what remains of those of the list
    obtain ⟨natives, hnatives, rfl⟩ := Result.map_eq_ok.mp (hread.symm.trans hn)
    obtain ⟨_, hlist, haccepts⟩ := Constraint.accepts_list.mp (hconstraint ▸ haccepts)
    obtain rfl := Value.list.inj hlist
    obtain ⟨ds, hds, rfl⟩ := Result.map_eq_ok.mp hd
    refine ⟨ds, rfl, forall₂_comp.mp ⟨natives, Result.mapM_eq_ok.mp hnatives, ?_⟩⟩
    exact (List.forall₂_and_left _ _).mpr ⟨haccepts, Result.mapM_eq_ok.mp hds⟩
  · rintro ⟨ds, rfl, h⟩
    obtain ⟨natives, hnatives, hrest⟩ := forall₂_comp.mpr h
    obtain ⟨haccepts, hds⟩ := (List.forall₂_and_left _ _).mp hrest
    refine ⟨.list natives, ?_, Constraint.accepts_list.mpr ⟨natives, rfl, haccepts⟩, ?_⟩
    · exact hread.trans (Result.map_eq_ok.mpr ⟨natives, Result.mapM_eq_ok.mpr hnatives, rfl⟩)
    · exact Result.map_eq_ok.mpr ⟨ds, Result.mapM_eq_ok.mpr hds, rfl⟩

/-- A map is read when each of its values is, provided that it is converted value by value. It keeps
its keys. -/
theorem readValue_map_iff {kind : MapKind} {t : Tree} {d : Datum}
    (hread : o.registry.read (some (.config t)) (map kind c).constraint
      = Serializer.convertEntries
        (fun v => o.registry.read (Deserializer.present v) c.constraint) t) :
    (map kind c).readValue o (.config t) = .ok d ↔ ∃ entries, d = .map kind (kind.arrange entries)
      ∧ List.Forall₂ (fun p q => p.1 = q.1 ∧ c.readValue o p.2 = .ok q.2) t.entries entries := by
  have hconstraint : (map kind c).constraint = ⟨.map, mapName kind c.name, [c.constraint]⟩ := rfl
  simp only [readValue_eq_ok]
  constructor
  · rintro ⟨n, hn, haccepts, hd⟩
    obtain ⟨natives, rfl, hnatives⟩ := Registry.convertEntries_eq_ok.mp (hread.symm.trans hn)
    obtain ⟨_, htree, haccepts⟩ := Constraint.accepts_map.mp (hconstraint ▸ haccepts)
    obtain rfl := Value.config.inj htree
    obtain ⟨entries, hentries, hnew⟩ := Result.bind_eq_ok.mp hd
    obtain rfl := Except.ok.inj hnew
    refine ⟨entries, rfl, ?_⟩
    refine (forall₂_comp.mp ⟨natives, hnatives, (List.forall₂_and_left _ _).mpr
      ⟨haccepts, (Result.mapM_values_eq_ok (f := c.fromNative o)).mp hentries⟩⟩).imp ?_
    rintro p q ⟨native, ⟨hkey, hconvert⟩, haccepts, hkey', hfrom⟩
    exact ⟨hkey.trans hkey', native.2, hconvert, haccepts, hfrom⟩
  · rintro ⟨entries, rfl, h⟩
    -- native forms in between, under the same keys
    have hsplit : List.Forall₂ (fun p q => ∃ native : String × Value,
        (p.1 = native.1 ∧ o.registry.read (Deserializer.present p.2) c.constraint = .ok native.2)
        ∧ c.constraint.accepts native.2 = true ∧ native.1 = q.1
          ∧ c.fromNative o native.2 = .ok q.2) t.entries entries := by
      apply h.imp
      rintro p q ⟨hkey, native, hconvert, haccepts, hfrom⟩
      exact ⟨(p.1, native), ⟨rfl, hconvert⟩, haccepts, hkey, hfrom⟩
    obtain ⟨natives, hnatives, hrest⟩ := forall₂_comp.mpr hsplit
    obtain ⟨haccepts, hentries⟩ := (List.forall₂_and_left _ _).mp hrest
    refine ⟨.config ⟨natives, t.comments⟩, ?_, Constraint.accepts_map.mpr ⟨_, rfl, haccepts⟩, ?_⟩
    · exact hread.trans (Registry.convertEntries_eq_ok.mpr ⟨natives, rfl, hnatives⟩)
    · exact Result.bind_eq_ok.mpr
        ⟨entries, (Result.mapM_values_eq_ok (f := c.fromNative o)).mpr hentries, rfl⟩

/-! ## Native forms of integers -/

section Integers

variable {type : IntType}

/-- A type that is not wide has no number beyond the signed ones of 64 bits. -/
theorem bounds_of_not_isWide (htype : type.isWide = false) {n : Int}
    (hcontains : type.contains n = true) : -2 ^ 63 ≤ n ∧ n < 2 ^ 63 := by
  cases type <;> simp_all [IntType.contains, IntType.isWide, IntType.least, IntType.greatest,
    IntType.isSigned, IntType.bits] <;> omega

theorem constraint_of_not_isWide (htype : type.isWide = false) :
    (integer type).constraint = .plain .integer type.name := by
  simp [integer, htype]

theorem constraint_of_isWide (htype : type.isWide = true) :
    (integer type).constraint = .plain .bigInt type.name := by
  simp [integer, htype]

theorem fromNative_of_not_isWide (htype : type.isWide = false) (i : Int64) :
    (integer type).fromNative o (.number (.integer i)) = checkRange type i.toInt := by
  simp only [integer, htype]
  rfl

/-- A type that is wide takes big integers and 64-bit ones alike. -/
theorem fromNative_of_isWide (htype : type.isWide = true) (v : Value) :
    (integer type).fromNative o v = readWide (wideRange type) v := by
  simp only [integer, htype]
  rfl

end Integers

variable (ho : o.registry.IsBuiltin)

include ho

/-! ## Containers by the built-in converters -/

/-- Nothing is read from the null marker, and something from another value that is read as what is
optional. -/
theorem readValue_option {v : Value} {d : Datum} :
    (option c).readValue o v = .ok d ↔ (v.isNull = true ∧ d = .nothing)
      ∨ (v.isNull = false ∧ ∃ content, d = .just content ∧ c.readValue o v = .ok content) := by
  simp only [readValue_eq_ok, Registry.read_eq ho]
  have hconstraint : (option c).constraint
      = ⟨.optional, optionName c.name, [c.constraint]⟩ := rfl
  have hfrom : ∀ n, (option c).fromNative o n
      = if n.isNull then .ok .nothing else .just <$> c.fromNative o n := fun _ => rfl
  rw [hconstraint]
  cases hnull : v.isNull with
  | true =>
    -- the null marker is no value, and no value is read as nothing
    have hv : Deserializer.present v = none := by cases v <;> first | rfl | cases hnull
    rw [hv, Registry.builtinRead_none]
    constructor
    · rintro ⟨n, hn, -, hd⟩
      obtain rfl := Except.ok.inj hn
      exact .inl ⟨rfl, (Except.ok.inj hd).symm⟩
    · rintro (⟨-, rfl⟩ | ⟨h, -⟩)
      · exact ⟨.null, rfl, rfl, rfl⟩
      · cases h
  | false =>
    have hv : Deserializer.present v = some v := by cases v <;> first | rfl | cases hnull
    rw [hv, Registry.builtinRead_optional]
    constructor
    · rintro ⟨n, hn, haccepts, hd⟩
      have hn' := Registry.isNull_of_builtinRead hn hnull
      rw [hfrom, hn', if_neg (by simp)] at hd
      obtain ⟨content, hcontent, rfl⟩ := Result.map_eq_ok.mp hd
      have haccepts := (Constraint.accepts_optional.mp haccepts).resolve_left (by simp [hn'])
      exact .inr ⟨rfl, content, rfl, n, hn, haccepts, hcontent⟩
    · rintro (⟨h, -⟩ | ⟨-, content, rfl, n, hn, haccepts, hcontent⟩)
      · cases h
      · have hn' := Registry.isNull_of_builtinRead hn hnull
        refine ⟨n, hn, Constraint.accepts_optional.mpr (.inr haccepts), ?_⟩
        rw [hfrom, hn', if_neg (by simp), hcontent]
        rfl

/-- A list is read when each of its items is, in the same order. -/
theorem readValue_list {v : Value} {d : Datum} :
    (list c).readValue o v = .ok d ↔ ∃ items ds, v = .list items ∧ d = .list ds
      ∧ List.Forall₂ (fun v d => c.readValue o v = .ok d) items ds := by
  have hitems : ∀ items, o.registry.read (some (.list items)) (list c).constraint
      = .list <$> items.mapM fun v => o.registry.read (Deserializer.present v) c.constraint := by
    intro items
    rw [Registry.read_eq ho]
    exact Registry.builtinRead_list items _ _
  constructor
  · intro hd
    cases hv : v.isList with
    | true =>
      obtain ⟨items, rfl⟩ := Value.isList_iff.mp hv
      obtain ⟨ds, rfl, h⟩ := (readValue_list_iff (hitems items)).mp hd
      exact ⟨items, ds, rfl, rfl, h⟩
    | false =>
      obtain ⟨n, hn, haccepts, -⟩ := readValue_eq_ok.mp hd
      rw [Registry.read_eq ho] at hn
      obtain ⟨-, haccepts⟩ :=
        (Registry.builtinRead_present rfl (.inr hv) (.inl rfl)).mp ⟨hn, haccepts⟩
      obtain ⟨items, rfl, -⟩ := Constraint.accepts_list.mp haccepts
      cases hv
  · rintro ⟨items, ds, rfl, rfl, h⟩
    exact (readValue_list_iff (hitems items)).mpr ⟨ds, rfl, h⟩

/-- A map is read when each of its values is, and keeps its keys. -/
theorem readValue_map {kind : MapKind} {v : Value} {d : Datum} :
    (map kind c).readValue o v = .ok d ↔ ∃ t entries, v = .config t
      ∧ d = .map kind (kind.arrange entries)
      ∧ List.Forall₂ (fun p q => p.1 = q.1 ∧ c.readValue o p.2 = .ok q.2) t.entries entries := by
  have hvalues : ∀ t, o.registry.read (some (.config t)) (map kind c).constraint
      = Serializer.convertEntries
        (fun v => o.registry.read (Deserializer.present v) c.constraint) t := by
    intro t
    rw [Registry.read_eq ho]
    exact Registry.builtinRead_map t _ _
  constructor
  · intro hd
    cases hv : v.isConfig with
    | true =>
      obtain ⟨t, rfl⟩ := Value.isConfig_iff.mp hv
      obtain ⟨entries, rfl, h⟩ := (readValue_map_iff (hvalues t)).mp hd
      exact ⟨t, entries, rfl, rfl, h⟩
    | false =>
      obtain ⟨n, hn, haccepts, -⟩ := readValue_eq_ok.mp hd
      rw [Registry.read_eq ho] at hn
      obtain ⟨-, haccepts⟩ :=
        (Registry.builtinRead_present rfl (.inl rfl) (.inr hv)).mp ⟨hn, haccepts⟩
      obtain ⟨t, rfl, -⟩ := Constraint.accepts_map.mp haccepts
      cases hv
  · rintro ⟨t, entries, rfl, rfl, h⟩
    exact (readValue_map_iff (hvalues t)).mpr ⟨entries, rfl, h⟩

/-- What a type that takes maps as they are makes of a map is what it makes of it as a native form.
The check asks only for a map. -/
theorem readValue_kept (hkeeps : Serializer.keepsTree c.constraint = true) {t : Tree} {d : Datum} :
    c.readValue o (.config t) = .ok d ↔ c.fromNative o (.config t) = .ok d := by
  have haccepts := Registry.accepts_of_keepsTree hkeeps t
  have hread : Registry.builtinRead (Deserializer.present (.config t)) c.constraint
      = .ok (.config t) := Registry.builtinRead_kept hkeeps t
  rw [readValue_eq_ok, Registry.read_eq ho, hread]
  constructor
  · rintro ⟨n, hn, -, hd⟩
    obtain rfl := Except.ok.inj hn
    exact hd
  · intro hd
    exact ⟨.config t, rfl, haccepts, hd⟩

/-! ## Plain data -/

/-- A value that is converted neither part by part nor as a whole is read as it is. -/
theorem readValue_accepted (hwhole : Registry.convertsWhole c.constraint = false)
    (hitems : Deserializer.takesItems c.constraint = false)
    (htree : Deserializer.takesTree c.constraint = false) {v : Value} {d : Datum} :
    c.readValue o v = .ok d ↔ c.constraint.accepts v = true ∧ c.fromNative o v = .ok d := by
  have hread : ∀ n, Registry.builtinRead (Deserializer.present v) c.constraint = .ok n
      ∧ c.constraint.accepts n = true ↔ n = v ∧ c.constraint.accepts v = true := fun n =>
    Registry.builtinRead_present hwhole (.inl hitems) (.inl htree)
  rw [readValue_eq_ok, Registry.read_eq ho]
  constructor
  · rintro ⟨n, hn, haccepts, hd⟩
    obtain ⟨rfl, haccepts⟩ := (hread n).mp ⟨hn, haccepts⟩
    exact ⟨haccepts, hd⟩
  · rintro ⟨haccepts, hd⟩
    obtain ⟨hn, -⟩ := (hread v).mpr ⟨rfl, haccepts⟩
    exact ⟨v, hn, haccepts, hd⟩

theorem readValue_bool {v : Value} {d : Datum} :
    bool.readValue o v = .ok d ↔ ∃ b, v = .bool b ∧ d = .bool b := by
  refine (readValue_accepted ho rfl rfl rfl).trans ⟨?_, ?_⟩
  · rintro ⟨haccepts, hd⟩
    obtain ⟨b, rfl⟩ := Constraint.accepts_bool.mp haccepts
    exact ⟨b, rfl, (Except.ok.inj hd).symm⟩
  · rintro ⟨b, rfl, rfl⟩
    exact ⟨rfl, rfl⟩

theorem readValue_string {v : Value} {d : Datum} :
    string.readValue o v = .ok d ↔ ∃ s, v = .string s ∧ d = .string s := by
  refine (readValue_accepted ho rfl rfl rfl).trans ⟨?_, ?_⟩
  · rintro ⟨haccepts, hd⟩
    obtain ⟨s, rfl⟩ := Constraint.accepts_string.mp haccepts
    exact ⟨s, rfl, (Except.ok.inj hd).symm⟩
  · rintro ⟨s, rfl, rfl⟩
    exact ⟨rfl, rfl⟩

theorem readValue_char {v : Value} {d : Datum} :
    char.readValue o v = .ok d ↔ ∃ c, v = .string (String.ofList [c]) ∧ d = .char c := by
  have hfrom : ∀ c, char.fromNative o (.string (String.ofList [c])) = .ok (.char c) := by
    intro c
    simp [char]
  refine (readValue_accepted ho rfl rfl rfl).trans ⟨?_, ?_⟩
  · rintro ⟨haccepts, hd⟩
    obtain ⟨s, rfl, hlength⟩ := Constraint.accepts_char.mp haccepts
    obtain ⟨c, hc⟩ := List.length_eq_one_iff.mp (String.length_toList.trans hlength)
    obtain rfl : s = String.ofList [c] := by rw [← hc, String.ofList_toList]
    exact ⟨c, rfl, (Except.ok.inj ((hfrom c).symm.trans hd)).symm⟩
  · rintro ⟨c, rfl, rfl⟩
    exact ⟨Constraint.accepts_char.mpr ⟨_, rfl, by simp⟩, hfrom c⟩

/-- A value as such is read from any value, and is the value as it was. -/
theorem readValue_value {v : Value} {d : Datum} :
    value.readValue o v = .ok d ↔ d = .value v := by
  have hread : Registry.builtinRead (Deserializer.present v) .any = .ok v := by
    cases v with
    | null => rfl
    | _ => exact Registry.builtinRead_any _
  rw [readValue_eq_ok, Registry.read_eq ho]
  constructor
  · rintro ⟨n, hn, -, hd⟩
    obtain rfl := Except.ok.inj (hread.symm.trans hn)
    exact (Except.ok.inj hd).symm
  · rintro rfl
    exact ⟨v, hread, rfl, rfl⟩

/-- A map as such is read from a map, and is the map as it was. -/
theorem readValue_tree {v : Value} {d : Datum} :
    tree.readValue o v = .ok d ↔ ∃ t, v = .config t ∧ d = .tree t := by
  rw [readValue_eq_ok, Registry.read_eq ho]
  constructor
  · rintro ⟨n, hn, haccepts, hd⟩
    cases hv : v.isConfig with
    | true =>
      obtain ⟨t, rfl⟩ := Value.isConfig_iff.mp hv
      obtain rfl := Except.ok.inj ((Registry.builtinRead_kept rfl t).symm.trans hn)
      exact ⟨t, rfl, (Except.ok.inj hd).symm⟩
    | false =>
      obtain ⟨-, haccepts⟩ :=
        (Registry.builtinRead_present rfl (.inl rfl) (.inr hv)).mp ⟨hn, haccepts⟩
      obtain ⟨t, rfl⟩ := Constraint.accepts_config.mp haccepts
      cases hv
  · rintro ⟨t, rfl, rfl⟩
    exact ⟨.config t, Registry.builtinRead_kept rfl t, rfl, rfl⟩

/-- A date-time is read from a date-time and from a text that names one. -/
theorem readValue_dateTime {v : Value} {d : Datum} :
    dateTime.readValue o v = .ok d ↔ ∃ t, d = .dateTime t
      ∧ (v = .dateTime t ∨ ∃ s, v = .string s ∧ Time.Instant.parseRfc3339 s = .ok t) := by
  rw [readValue_eq_ok, Registry.read_eq ho]
  constructor
  · rintro ⟨n, hn, haccepts, hd⟩
    obtain ⟨t, rfl⟩ := Constraint.accepts_dateTime.mp haccepts
    exact ⟨t, (Except.ok.inj hd).symm, Registry.builtinRead_dateTime_eq_ok.mp hn⟩
  · rintro ⟨t, rfl, hv⟩
    exact ⟨.dateTime t, Registry.builtinRead_dateTime_eq_ok.mpr hv, rfl, rfl⟩

/-! ## Numbers -/

/-- An integer is read from every number that is equal to it, if the type has it. -/
theorem readValue_integer {type : IntType} (htype : type.isWide = false) {v : Value} {d : Datum} :
    (integer type).readValue o v = .ok d ↔ ∃ n : Int, v.toRat? = some (n : ℚ)
      ∧ type.contains n = true ∧ d = .integer n := by
  rw [readValue_eq_ok, Registry.read_eq ho, constraint_of_not_isWide htype]
  constructor
  · rintro ⟨n, hn, haccepts, hd⟩
    obtain ⟨i, rfl⟩ := Constraint.accepts_integer.mp haccepts
    rw [fromNative_of_not_isWide htype, checkRange] at hd
    split at hd <;> cases hd
    rename_i hcontains
    exact ⟨i.toInt, Registry.builtinRead_integer.mp hn, hcontains, rfl⟩
  · rintro ⟨n, hv, hcontains, rfl⟩
    -- a type that is not wide lies within 64 bits, so the integer takes part in the conversion
    have hrange := bounds_of_not_isWide htype hcontains
    have hn : (Int64.ofInt n).toInt = n := Int64.toInt_ofInt_of_le hrange.1 hrange.2
    refine ⟨.number (.integer (Int64.ofInt n)), Registry.builtinRead_integer.mpr (hn.symm ▸ hv), rfl, ?_⟩
    rw [fromNative_of_not_isWide htype, hn, checkRange, if_pos hcontains]

/-- The widest integers are read from big integers and from 64-bit ones, if the type has them. -/
theorem readValue_wide {type : IntType} (htype : type.isWide = true) {v : Value} {d : Datum} :
    (integer type).readValue o v = .ok d ↔ ∃ n, v.toWhole? = some n
      ∧ (wideRange type).contains n = true ∧ d = .integer n := by
  rw [readValue_eq_ok, Registry.read_eq ho, constraint_of_isWide htype]
  constructor
  · rintro ⟨n, hn, haccepts, hd⟩
    obtain ⟨k, hk, rfl⟩ := Registry.builtinRead_bigInt.mp ⟨hn, haccepts⟩
    rw [fromNative_of_isWide htype, readWide, checkRange] at hd
    split at hd <;> cases hd
    exact ⟨k, hk, by assumption, rfl⟩
  · rintro ⟨k, hk, hcontains, rfl⟩
    obtain ⟨hn, haccepts⟩ := Registry.builtinRead_bigInt.mpr ⟨k, hk, rfl⟩
    refine ⟨_, hn, haccepts, ?_⟩
    rw [fromNative_of_isWide htype, readWide, checkRange, if_pos hcontains]

theorem readValue_bigInt {v : Value} {d : Datum} :
    bigInt.readValue o v = .ok d ↔ ∃ n, v.toWhole? = some n ∧ d = .bigInt n := by
  rw [readValue_eq_ok, Registry.read_eq ho]
  constructor
  · rintro ⟨n, hn, haccepts, hd⟩
    obtain ⟨k, hk, rfl⟩ := Registry.builtinRead_bigInt.mp ⟨hn, haccepts⟩
    exact ⟨k, hk, (Except.ok.inj hd).symm⟩
  · rintro ⟨k, hk, rfl⟩
    obtain ⟨hn, haccepts⟩ := Registry.builtinRead_bigInt.mpr ⟨k, hk, rfl⟩
    exact ⟨_, hn, haccepts, rfl⟩

/-- A number of single precision is read from every number, by way of double precision. -/
theorem readValue_single {v : Value} {d : Datum} :
    single.readValue o v = .ok d
      ↔ ∃ x, v.toDouble? = some x ∧ d = .single (x.convert .single) := by
  rw [readValue_eq_ok, Registry.read_eq ho]
  constructor
  · rintro ⟨n, hn, haccepts, hd⟩
    obtain ⟨x, hx, rfl⟩ := Registry.builtinRead_float.mp ⟨hn, haccepts⟩
    exact ⟨x, hx, (Except.ok.inj hd).symm⟩
  · rintro ⟨x, hx, rfl⟩
    obtain ⟨hn, haccepts⟩ := Registry.builtinRead_float.mpr ⟨x, hx, rfl⟩
    exact ⟨_, hn, haccepts, rfl⟩

/-- A number of double precision is read from every number. -/
theorem readValue_double {v : Value} {d : Datum} :
    double.readValue o v = .ok d ↔ ∃ x, v.toDouble? = some x ∧ d = .double x := by
  rw [readValue_eq_ok, Registry.read_eq ho]
  constructor
  · rintro ⟨n, hn, haccepts, hd⟩
    obtain ⟨x, hx, rfl⟩ := Registry.builtinRead_float.mp ⟨hn, haccepts⟩
    exact ⟨x, hx, (Except.ok.inj hd).symm⟩
  · rintro ⟨x, hx, rfl⟩
    obtain ⟨hn, haccepts⟩ := Registry.builtinRead_float.mpr ⟨x, hx, rfl⟩
    exact ⟨_, hn, haccepts, rfl⟩

end Codec

end ConfigBinding
