import ConfigBinding.Proofs.Rule.Errors
import ConfigBinding.Proofs.Schema.Trace

/-!
# What reading fails with

`ReadFails` says with which root error, and within which members inside one another, the reading of
a member fails, and `ContentFails` says the same of taking a datum from a native form. Conversion
and check come before that, for the value as a whole, so their errors are roots at the member that
the value is read for, however deep in the value they arise.
-/

namespace ConfigBinding

namespace TypeTable

mutual

/-- Taking a datum of a type from a native form fails with a root error, within members inside one
another whose lines are given. -/
inductive ContentFails (ts : TypeTable) (o : Options) :
    Nat → MemberType → Value → List Fault → Error → Prop where
  /-- The type itself raises the error, whatever becomes of objects. -/
  | raised {nesting : Nat} {t : MemberType} {v : Value} {root : Error}
    (h : ∀ objects, MemberType.NamesKept objects →
      (t.codecWith objects).fromNative o v = .error root) :
    ContentFails ts o nesting t v [] root
  | just {nesting : Nat} {t : MemberType} {v : Value} {lines : List Fault} {root : Error}
    (hnull : v.isNull = false) (h : ContentFails ts o nesting t v lines root) :
    ContentFails ts o nesting (.option t) v lines root
  | item {nesting : Nat} {t : MemberType} {vs : List Value} {v : Value} {lines : List Fault}
    {root : Error} (hv : v ∈ vs) (h : ContentFails ts o nesting t v lines root) :
    ContentFails ts o nesting (.list t) (.list vs) lines root
  | entry {nesting : Nat} {kind : MapKind} {t : MemberType} {tree : Tree} {p : String × Value}
    {lines : List Fault} {root : Error} (hp : p ∈ tree.entries)
    (h : ContentFails ts o nesting t p.2 lines root) :
    ContentFails ts o nesting (.map kind t) (.config tree) lines root
  /-- There is no map for an object of a known type, or it lies too deep. -/
  | unconvertible {nesting : Nat} {n : String} {v : Value} {root : Error}
    (hv : ∀ tree t, v = .config tree → ts.find? n = some t → nesting = 0)
    (h : (ts.objectCodec nesting n).fromNative o v = .error root) :
    ContentFails ts o nesting (.object n) v [] root
  /-- One of the object's members fails, and those before it have been read. -/
  | object {nesting : Nat} {n : String} {t : ObjectType MemberType} {y : Object}
    {before after : List (Member MemberType)} {m : Member MemberType} {tree : Tree}
    {lines : List Fault} {root : Error} (hfind : ts.find? n = some t)
    (hmembers : t.schema.members.filter o.includes = before ++ m :: after)
    (hbefore : readMembers o tree (before.map (ts.member nesting)) t.fresh = (.ok (), y))
    (h : ReadFails ts o nesting m tree y lines root) :
    ContentFails ts o (nesting + 1) (.object n) (.config tree) lines root

/-- Reading a member of an object from a store fails with a root error, within members inside one
another whose lines are given. The first line is that of the member itself. -/
inductive ReadFails (ts : TypeTable) (o : Options) : {σ : Type} → [Store σ] →
    Nat → Member MemberType → σ → Object → List Fault → Error → Prop where
  /-- A rule of the member cannot be resolved, or an assertion does not hold. -/
  | rule {σ : Type} [Store σ] {nesting : Nat} {m : Member MemberType} {source : σ} {y : Object}
    {root : Error} (hroot : m.scope.Raises root)
    (h : (ts.member nesting m).toRead o source y = .error root) :
    ReadFails ts o nesting m source y [m.readLine (m.entry o source)] root
  /-- The store has no entry for the member. -/
  | missing {σ : Type} [Store σ] {nesting : Nat} {m : Member MemberType} {source : σ} {y : Object}
    (hentry : m.entry o source = .absent) :
    ReadFails ts o nesting m source y [m.readLine (m.entry o source)]
      (.missingEntry (m.key o) m.name m.declaringType)
  /-- The converters fail at the entry. -/
  | converter {σ : Type} [Store σ] {nesting : Nat} {m : Member MemberType} {source : σ} {y : Object}
    {root : Error} (hentry : (m.entry o source).isAbsent = false)
    (h : o.registry.read (m.entry o source).value? (ts.codecAt nesting m.type).constraint
      = .error root) :
    ReadFails ts o nesting m source y [m.readLine (m.entry o source)] root
  /-- What the converters make of the entry is not accepted. -/
  | rejected {σ : Type} [Store σ] {nesting : Nat} {m : Member MemberType} {source : σ} {y : Object}
    {v : Value} (hentry : (m.entry o source).isAbsent = false)
    (hread : o.registry.read (m.entry o source).value? (ts.codecAt nesting m.type).constraint
      = .ok v)
    (haccepts : (ts.codecAt nesting m.type).constraint.accepts v = false) :
    ReadFails ts o nesting m source y [m.readLine (m.entry o source)]
      (.ofFault (.rejected v (ts.codecAt nesting m.type).constraint.typeName))
  /-- The datum cannot be taken from the native form. -/
  | content {σ : Type} [Store σ] {nesting : Nat} {m : Member MemberType} {source : σ} {y : Object}
    {v : Value} {lines : List Fault} {root : Error}
    (hentry : (m.entry o source).isAbsent = false)
    (hread : o.registry.read (m.entry o source).value? (ts.codecAt nesting m.type).constraint
      = .ok v)
    (haccepts : (ts.codecAt nesting m.type).constraint.accepts v = true)
    (h : ContentFails ts o nesting m.type v lines root) :
    ReadFails ts o nesting m source y (m.readLine (m.entry o source) :: lines) root

end

end TypeTable

/-! ## The way into a member -/

section Member

variable {σ : Type} [Store σ] {o : Options} {m : Member Codec} {source : σ} {y : Object} {e : Error}

/-- An entry has no datum because it is absent, or because its value cannot be read. -/
theorem Member.error_of_convert {entry : Entry} (h : m.convert o entry = .error e) :
    (entry = .absent ∧ e = .missingEntry (m.key o) m.name m.declaringType)
      ∨ (entry.isAbsent = false ∧ ∃ e', m.type.read o entry.value? = .error e'
        ∧ e = e'.under (m.readLine entry)) := by
  cases entry with
  | absent => exact .inl ⟨rfl, (Except.error.inj h).symm⟩
  | null | present v =>
    obtain ⟨e', hread, rfl⟩ := Result.mapError_eq_error.mp h
    exact .inr ⟨rfl, e', hread, rfl⟩

/-- What a member is to become cannot be told because of a rule, or because of the entry. -/
theorem Member.error_of_toRead (h : m.toRead o source y = .error e) :
    m.scope.Raises e ∨ m.convert o (m.entry o source) = .error e := by
  -- an entry has no native form that could fail
  have hentry : ∀ {e}, m.scope.Raises e ∨ (Observation.entry (m.entry o source)).Raises e →
      m.scope.Raises e := fun h => h.resolve_right id
  rcases Result.bind_eq_error.mp h with hskip | ⟨skipped, -, h⟩
  · exact .inl (hentry (MemberRules.raises_of_shouldSkip hskip))
  split at h
  · cases h
  have hasserts : ∀ d, (do
      m.rules.checkAsserts m.type.name d (m.owner y) m.scope
      return some d : Result (Option Datum)) = .error e → m.scope.Raises e := by
    intro d h
    rcases Result.bind_eq_error.mp h with hcheck | ⟨-, -, h⟩
    · exact MemberRules.raises_of_checkAsserts hcheck
    · cases h
  rcases Result.bind_eq_error.mp h with hdefault | ⟨default, -, h⟩
  · exact .inl (hentry (MemberRules.raises_of_findDefault hdefault))
  · cases default with
    | some d => exact .inl (hasserts d h)
    | none =>
      rcases Result.bind_eq_error.mp h with hconvert | ⟨d, -, h⟩
      · exact .inr hconvert
      · exact .inl (hasserts d h)

end Member

namespace TypeTable

variable {ts : TypeTable} {o : Options} {nesting : Nat}

section Run

variable {σ : Type} [Store σ] {source : σ} {x x' : Object} {e : Error}

end Run

end TypeTable

end ConfigBinding
