import ConfigBinding.Converter.Registry

/-!
# Conversion as look-up

Conversion is defined by recursion on the value and its type. Seen from outside it is what
`Registry.findSerializer` and `Registry.findDeserializer` say: the first converter that accepts the
value converts it, a built-in one asking again for the parts (`Registry.writeNested_eq`,
`Registry.readNested_eq`). A converter of the caller asks with one question less to go.
-/

namespace ConfigBinding.Registry

/-! ## Writing -/

theorem writeItems_eq_mapM (own : Value → Constraint → Option (Result Value)) (c : Constraint)
    (items : List Value) : writeItems own c items = items.mapM (writeWith own · c) := by
  induction items with
  | nil => rfl
  | cons v rest ih => simp [writeItems, ih]

theorem writeEntries_eq_mapM (own : Value → Constraint → Option (Result Value)) (c : Constraint)
    (entries : List (String × Value)) :
    writeEntries own c entries =
      entries.mapM fun p => do
        let v ← writeWith own p.2 c
        return (p.1, v) := by
  induction entries with
  | nil => rfl
  | cons p rest ih => simp [writeEntries, ih]

/-- One step of the conversion of something optional. -/
theorem writeOptional_eq (own : Constraint → Option (Result Value))
    (inner : Constraint → Result Value) (c : Constraint) :
    writeOptional own inner c =
      (own c).getD
        (if c.shape = .optional then writeOptional own inner c.elementOrAny else inner c) := by
  obtain ⟨shape, name, arguments⟩ := c
  by_cases hs : shape = .optional
  · subst hs
    cases arguments with
    | nil =>
      rw [writeOptional]
      cases own ⟨.optional, name, []⟩ with
      | some r => rfl
      | none =>
        have h : writeOptional own inner .any = (own .any).getD (inner .any) := by
          rw [Constraint.any, Constraint.plain, writeOptional]
          cases own ⟨.any, "any", []⟩ <;> rfl
        exact h.symm
    | cons element rest =>
      rw [writeOptional]
      cases own ⟨.optional, name, element :: rest⟩ <;> rfl
  · have hc : Constraint.shape ⟨shape, name, arguments⟩ ≠ .optional := hs
    rw [if_neg hc]
    cases arguments <;> rw [writeOptional] <;> cases own _ <;> simp [hs]

/-- What the first built-in serializer that accepts a value makes of it. -/
def writeBuiltin (again : Writing) (v : Value) (c : Constraint) : Result Value :=
  match Serializer.builtin.find? (·.accepts v c) with
  | some s => s.convert again v c
  | none => .error (.ofFault (.noSerializer v c.typeName))

/-- Conversion asks the caller's serializers first, and then the built-in ones. -/
theorem writeWith_eq (own : Value → Constraint → Option (Result Value)) (v : Value)
    (c : Constraint) :
    writeWith own v c = (own v c).getD (writeBuiltin (writeWith own) v c) := by
  cases v with
  | null =>
    simp [writeWith, writeBuiltin, Serializer.builtin, Serializer.null, Value.isNull]
  | list items =>
    rw [writeWith, writeOptional_eq]
    by_cases hc : c.shape = .optional
    · simp [hc, writeBuiltin, Serializer.builtin, Serializer.null, Serializer.optional,
        Value.isNull, writeWith]
    · simp [hc, writeBuiltin, Serializer.builtin, Serializer.null, Serializer.optional,
        Serializer.list, Value.isNull, Value.isList, writeItems_eq_mapM]
  | config t =>
    obtain ⟨entries, comments⟩ := t
    rw [writeWith, writeOptional_eq]
    by_cases hc : c.shape = .optional
    · simp [hc, writeBuiltin, Serializer.builtin, Serializer.null, Serializer.optional,
        Value.isNull, writeWith]
    · simp [hc, writeBuiltin, Serializer.builtin, Serializer.null, Serializer.optional,
        Serializer.list, Serializer.tree, Serializer.convertEntries, Value.isNull, Value.isList,
        Value.isConfig, writeEntries_eq_mapM]
  | _ =>
    simp only [writeWith]
    rw [writeOptional_eq]
    by_cases hc : c.shape = .optional <;>
      simp [hc, writeBuiltin, Serializer.builtin, Serializer.null, Serializer.optional,
        Serializer.list, Serializer.tree, Serializer.scalar, Value.isNull, Value.isList,
        Value.isConfig, writeWith]

/-- Conversion is look-up, and conversion by what was found. -/
theorem writeNested_eq (r : Registry) (nesting : Nat) (v : Value) (c : Constraint) :
    r.writeNested (nesting + 1) v c =
      match r.serializers.find? (·.accepts v c) with
      | some s => s.convert (r.writeNested nesting) v c
      | none => writeBuiltin (r.writeNested (nesting + 1)) v c := by
  rw [writeNested, writeWith_eq, ownWriting?]
  cases r.serializers.find? (·.accepts v c) <;> rfl

/-! ## Reading -/

/-- An item that is a null marker is read as no value. -/
theorem readOptionWith_present (own : Option Value → Constraint → Option (Result Value))
    (v : Value) (c : Constraint) :
    readOptionWith own (Deserializer.present v) c =
      if v.isNull then readNothing own c else readWith own v c := by
  cases v <;> rfl

theorem readItems_eq_mapM (own : Option Value → Constraint → Option (Result Value))
    (c : Constraint) (items : List Value) :
    readItems own c items =
      items.mapM fun v => readOptionWith own (Deserializer.present v) c := by
  induction items with
  | nil => rfl
  | cons v rest ih =>
    rw [readItems, ih, List.mapM_cons, readOptionWith_present]
    split <;> rfl

theorem readEntries_eq_mapM (own : Option Value → Constraint → Option (Result Value))
    (c : Constraint) (entries : List (String × Value)) :
    readEntries own c entries =
      entries.mapM fun p => do
        let v ← readOptionWith own (Deserializer.present p.2) c
        return (p.1, v) := by
  induction entries with
  | nil => rfl
  | cons p rest ih =>
    rw [readEntries, ih, List.mapM_cons, readOptionWith_present]
    split <;> simp

/-- What the first built-in deserializer that accepts a value makes of it. -/
def readBuiltin (again : Reading) (v : Option Value) (c : Constraint) : Result Value :=
  match Deserializer.builtin.find? (·.accepts v c) with
  | some d => d.convert again v c
  | none => .error (.ofFault (.noDeserializer v c.typeName))

/-- What the built-in deserializers make of a value that is not converted part by part. -/
theorem readBuiltin_scalar (again : Reading) {v : Value} {c : Constraint}
    (hc : c.shape ≠ .optional) (hlist : Deserializer.list.accepts (some v) c = false)
    (htree : Deserializer.tree.accepts (some v) c = false) :
    readBuiltin again (some v) c =
      if Deserializer.number.accepts (some v) c then Deserializer.convertNumber v c
      else if Deserializer.dateTime.accepts (some v) c then Deserializer.convertDateTime v c
      else readAccepted v c := by
  have hnull : Deserializer.null.accepts (some v) c = false := rfl
  have hoptional : Deserializer.optional.accepts (some v) c = false := by
    simp [Deserializer.optional, hc]
  have hpass : Deserializer.passThrough.accepts (some v) c = c.accepts v := rfl
  rw [readBuiltin, Deserializer.builtin, List.find?_cons, hnull]
  rw [List.find?_cons, hoptional, List.find?_cons]
  cases Deserializer.number.accepts (some v) c with
  | true => rfl
  | false =>
    rw [List.find?_cons]
    cases Deserializer.dateTime.accepts (some v) c with
    | true => rfl
    | false =>
      rw [List.find?_cons, hlist, List.find?_cons, htree, List.find?_cons, hpass, readAccepted]
      cases c.accepts v <;> rfl

/-- Conversion asks the caller's deserializers first, and then the built-in ones. -/
theorem readOptionWith_eq (own : Option Value → Constraint → Option (Result Value))
    (v : Option Value) (c : Constraint) :
    readOptionWith own v c = (own v c).getD (readBuiltin (readOptionWith own) v c) := by
  cases v with
  | none =>
    simp [readOptionWith, readNothing, readBuiltin, Deserializer.builtin, Deserializer.null]
  | some v =>
    cases v with
    | list items =>
      rw [readOptionWith, readWith, writeOptional_eq]
      by_cases hc : c.shape = .optional
      · simp [hc, readBuiltin, Deserializer.builtin, Deserializer.null, Deserializer.optional,
          readOptionWith, readWith]
      · cases ht : Deserializer.takesItems c <;> cases ha : c.accepts (.list items) <;>
          simp [hc, ht, ha, readBuiltin, Deserializer.builtin, Deserializer.null,
            Deserializer.optional, Deserializer.number, Deserializer.dateTime, Deserializer.list,
            Deserializer.tree, Deserializer.passThrough, readAccepted, readItems_eq_mapM]
    | config t =>
      obtain ⟨entries, comments⟩ := t
      rw [readOptionWith, readWith, writeOptional_eq]
      by_cases hc : c.shape = .optional
      · simp [hc, readBuiltin, Deserializer.builtin, Deserializer.null, Deserializer.optional,
          readOptionWith, readWith]
      · cases ht : Deserializer.takesTree c <;>
          cases ha : c.accepts (.config ⟨entries, comments⟩) <;>
          simp [hc, ht, ha, readBuiltin, Deserializer.builtin, Deserializer.null,
            Deserializer.optional, Deserializer.number, Deserializer.dateTime, Deserializer.list,
            Deserializer.tree, Deserializer.passThrough, Serializer.convertEntries, readAccepted,
            readEntries_eq_mapM]
    | _ =>
      rw [readOptionWith]
      simp only [readWith]
      rw [writeOptional_eq]
      by_cases hc : c.shape = .optional
      · simp [hc, readBuiltin, Deserializer.builtin, Deserializer.null, Deserializer.optional,
          readOptionWith, readWith]
      · rw [if_neg hc, readBuiltin_scalar _ hc (by simp [Deserializer.list])
          (by simp [Deserializer.tree])]

/-- Conversion is look-up, and conversion by what was found. -/
theorem readNested_eq (r : Registry) (nesting : Nat) (v : Option Value) (c : Constraint) :
    r.readNested (nesting + 1) v c =
      match r.deserializers.find? (·.accepts v c) with
      | some d => d.convert (r.readNested nesting) v c
      | none => readBuiltin (r.readNested (nesting + 1)) v c := by
  rw [readNested, readOptionWith_eq, ownReading?]
  cases r.deserializers.find? (·.accepts v c) <;> rfl

end ConfigBinding.Registry
