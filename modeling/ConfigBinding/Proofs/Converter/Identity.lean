import ConfigBinding.Proofs.Converter.Builtin

/-!
# Looking up serializers ends, and changes nothing

Writing is described by look-up: the first serializer that accepts a value converts it, and asks for
the conversion of its parts, for which serializers are looked up anew. The description does not say
that this comes to an end, since an optional asks for the same value again and a list for values
whose type need not be smaller. `Registry.writeByLookup` follows the description literally, to a
limit on the questions that are asked inside one another.

Among the built-in serializers every question is about less, if values and types are measured
together: `Value.depth` counts the lists and maps inside one another, `Constraint.chain` the
elements of elements. An item has less depth and no longer chain, whatever its list is declared as,
and an optional has a shorter chain for the same value. So a built-in serializer hands a value back
when its questions are answered so (`Serializer.convert_eq_self`), and a limit of one more than both
measures is never reached (`Registry.writeByLookup_eq`).
-/

namespace ConfigBinding

/-! ## What a question is about -/

mutual

/-- How many lists and maps there are inside one another, the value itself included. -/
def Value.depth : Value → Nat
  | .list items => valuesDepth items + 1
  | .config ⟨entries, _⟩ => entriesDepth entries + 1
  | _ => 0

/-- The depth of the deepest value. -/
def valuesDepth : List Value → Nat
  | [] => 0
  | v :: rest => max v.depth (valuesDepth rest)

/-- The depth of the deepest value under a key. -/
def entriesDepth : List (String × Value) → Nat
  | [] => 0
  | (_, v) :: rest => max v.depth (entriesDepth rest)

end

/-- How many elements of elements a type has. An optional without an argument has one, which may be
anything. -/
def Constraint.chain : Constraint → Nat
  | ⟨shape, _, []⟩ => if shape = .optional then 1 else 0
  | ⟨_, _, element :: _⟩ => element.chain + 1

section Measures

variable {v : Value} {c : Constraint}

theorem depth_le_valuesDepth {items : List Value} (h : v ∈ items) :
    v.depth ≤ valuesDepth items := by
  induction items with
  | nil => cases h
  | cons w rest ih =>
    rw [valuesDepth]
    rcases List.mem_cons.mp h with rfl | hmem
    · exact Nat.le_max_left _ _
    · exact Nat.le_trans (ih hmem) (Nat.le_max_right _ _)

theorem depth_le_entriesDepth {entries : List (String × Value)} {p : String × Value}
    (h : p ∈ entries) : p.2.depth ≤ entriesDepth entries := by
  induction entries with
  | nil => cases h
  | cons q rest ih =>
    rw [entriesDepth]
    rcases List.mem_cons.mp h with rfl | hmem
    · exact Nat.le_max_left _ _
    · exact Nat.le_trans (ih hmem) (Nat.le_max_right _ _)

theorem depth_lt_of_mem_list {items : List Value} (h : v ∈ items) :
    v.depth < (Value.list items).depth := by
  rw [Value.depth]
  exact Nat.lt_succ_of_le (depth_le_valuesDepth h)

theorem depth_lt_of_mem_config {t : Tree} {p : String × Value} (h : p ∈ t.entries) :
    p.2.depth < (Value.config t).depth := by
  obtain ⟨entries, comments⟩ := t
  rw [Value.depth]
  exact Nat.lt_succ_of_le (depth_le_entriesDepth h)

theorem chain_elementOrAny_le (c : Constraint) : c.elementOrAny.chain ≤ c.chain :=
  match c with
  | ⟨_, _, []⟩ => Nat.zero_le _
  | ⟨_, _, element :: _⟩ => Nat.le_succ element.chain

/-- What is optional has less to it than the optional. -/
theorem chain_elementOrAny_lt (h : c.shape = .optional) : c.elementOrAny.chain < c.chain := by
  obtain ⟨shape, name, arguments⟩ := c
  obtain rfl : shape = .optional := h
  cases arguments with
  | nil => exact Nat.zero_lt_one
  | cons element rest => exact Nat.lt_succ_self element.chain

theorem chain_listElement_le (c : Constraint) : (Serializer.listElement c).chain ≤ c.chain := by
  rw [Serializer.listElement]
  split
  · exact chain_elementOrAny_le c
  · exact Nat.zero_le _

theorem chain_mapElement_le (c : Constraint) : (Serializer.mapElement c).chain ≤ c.chain := by
  rw [Serializer.mapElement]
  split
  · exact chain_elementOrAny_le c
  · exact Nat.zero_le _

end Measures

/-! ## One serializer -/

/-- Questions about less than a value and its type are answered by the value asked about. -/
def KeepsBelow (again : Writing) (v : Value) (c : Constraint) : Prop :=
  ∀ v' c', v'.depth + c'.chain < v.depth + c.chain → again v' c' = .ok v'

namespace Serializer

variable {s : Serializer} {again : Writing} {v : Value} {c : Constraint}

theorem list_convert_eq_self (items : List Value) (h : KeepsBelow again (.list items) c) :
    list.convert again (.list items) c = .ok (.list items) := by
  have hitems : items.mapM (again · (listElement c)) = .ok items := by
    refine Result.mapM_eq_self fun item hitem => h _ _ ?_
    exact Nat.add_lt_add_of_lt_of_le (depth_lt_of_mem_list hitem) (chain_listElement_le c)
  exact Result.map_eq_ok.mpr ⟨items, hitems, rfl⟩

theorem tree_convert_eq_self (t : Tree) (h : KeepsBelow again (.config t) c) :
    tree.convert again (.config t) c = .ok (.config t) := by
  obtain ⟨entries, comments⟩ := t
  show (if keepsTree c then _ else _) = _
  split
  · rfl
  · refine Registry.convertEntries_eq_ok.mpr ⟨entries, rfl, List.forall₂_same.mpr ?_⟩
    refine fun p hp => ⟨rfl, h _ _ ?_⟩
    exact Nat.add_lt_add_of_lt_of_le (depth_lt_of_mem_config hp) (chain_mapElement_le c)

/-- A built-in serializer hands back what it accepts, if its questions are answered so. -/
theorem convert_eq_self (hs : s ∈ builtin) (haccepts : s.accepts v c = true)
    (h : KeepsBelow again v c) : s.convert again v c = .ok v := by
  simp only [builtin, List.mem_cons, List.not_mem_nil, or_false] at hs
  rcases hs with rfl | rfl | rfl | rfl | rfl
  · -- the null marker
    cases v with
    | null => rfl
    | _ => cases haccepts
  · -- something optional
    have hshape : c.shape = .optional := of_decide_eq_true haccepts
    exact h _ _ (Nat.add_lt_add_left (chain_elementOrAny_lt hshape) _)
  · -- a list
    cases v with
    | list items => exact list_convert_eq_self items h
    | _ => cases haccepts
  · -- a map
    cases v with
    | config t => exact tree_convert_eq_self t h
    | _ => cases haccepts
  · -- any other value
    rfl

/-- The built-in serializer that is found for a value: it depends on the null marker, then on the
type being optional, then on the kind of the value. -/
def chosen (v : Value) (c : Constraint) : Serializer :=
  if v.isNull then null
  else if c.shape = .optional then optional
  else if v.isList then list
  else if v.isConfig then tree
  else scalar

/-- One is found in any case. -/
theorem find?_builtin (v : Value) (c : Constraint) :
    builtin.find? (·.accepts v c) = some (chosen v c) := by
  by_cases hshape : c.shape = .optional <;> cases v <;>
    simp [builtin, chosen, null, optional, list, tree, scalar, hshape, Value.isNull, Value.isList,
      Value.isConfig]

theorem chosen_mem (v : Value) (c : Constraint) : chosen v c ∈ builtin :=
  List.mem_of_find?_eq_some (find?_builtin v c)

theorem accepts_chosen (v : Value) (c : Constraint) : (chosen v c).accepts v c = true :=
  List.find?_some (p := fun s : Serializer => s.accepts v c) (find?_builtin v c)

end Serializer

/-! ## Looking serializers up -/

namespace Registry

variable {r : Registry}

/-- Converts a value as the description has it: by the first serializer that accepts it, whose
questions are answered in the same way. At most `limit` questions are asked inside one another. -/
def writeByLookup (r : Registry) : Nat → Writing
  | 0, _, _ => .error (.ofFault (.other writeNested.tooDeep))
  | limit + 1, v, c => do
    let s ← r.findSerializer v c
    s.convert (r.writeByLookup limit) v c

theorem findSerializer_eq (h : r.IsBuiltin) (v : Value) (c : Constraint) :
    r.findSerializer v c = .ok (Serializer.chosen v c) := by
  rw [findSerializer, allSerializers, h.1, List.nil_append, Serializer.find?_builtin]

/-- A limit beyond the measure of the value and its type is not reached. -/
theorem writeByLookup_eq (h : r.IsBuiltin) {limit : Nat} {v : Value} {c : Constraint}
    (hlimit : v.depth + c.chain < limit) : r.writeByLookup limit v c = .ok v := by
  -- a question costs one of the limit, and what it is about is less at least by one
  induction limit generalizing v c with
  | zero => cases hlimit
  | succ limit ih =>
    refine Result.bind_eq_ok.mpr ⟨_, findSerializer_eq h v c, ?_⟩
    refine Serializer.convert_eq_self (Serializer.chosen_mem v c) (Serializer.accepts_chosen v c) ?_
    exact fun v' c' hless => ih (Nat.lt_of_lt_of_le hless (Nat.le_of_lt_succ hlimit))

/-- With the built-in serializers, one is found for every value and every type, however little they
fit; looking up comes to an end; and every value is stored as it is, with its order, its comments
and its null markers at every depth. -/
theorem builtin_write_identity (v : Value) (c : Constraint) :
    (∃ s ∈ Serializer.builtin, builtin.findSerializer v c = .ok s)
      ∧ (∀ more, builtin.writeByLookup (v.depth + c.chain + 1 + more) v c = .ok v)
      ∧ builtin.write v c = .ok v := by
  refine ⟨⟨_, Serializer.chosen_mem v c, findSerializer_eq isBuiltin_builtin v c⟩, ?_, ?_⟩
  · exact fun more => writeByLookup_eq isBuiltin_builtin (Nat.le_add_right _ more)
  · exact write_eq isBuiltin_builtin v c

/-- The measure is not too large: a list for an optional without an argument asks for the list, and
that for its item. -/
example : Constraint.chain (.plain .optional "Option") = 1
    ∧ builtin.writeByLookup 3 (.list [.null]) (.plain .optional "Option") = .ok (.list [.null])
    ∧ builtin.writeByLookup 2 (.list [.null]) (.plain .optional "Option")
      = .error (.ofFault (.other writeNested.tooDeep)) :=
  ⟨rfl, rfl, rfl⟩

end Registry

end ConfigBinding
