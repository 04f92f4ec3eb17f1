import ConfigBinding.Proofs.Rule.Errors
import ConfigBinding.Proofs.Schema.Trace

/-!
# What writing fails with

`WriteFails` says with which root error, and within which members inside one another, the writing
of a member fails, and `NativeFails` says the same of making the native form of a datum. They
follow the datum down to the place where the error is raised: each member on the way adds its line,
and what is optional, a list or a map adds none. The error that comes out is what the lines make of
the root (`TypeTable.writeFails_of_write`).
-/

namespace ConfigBinding

/-- The data that may be written for a member: its own one, or a default that applies. -/
def Member.Candidate (m : Member Codec) (o : Options) (x : Object) (d : Datum) : Prop :=
  d = m.get x ∨ m.rules.findDefault m.type.name (m.observed x (m.ownNative o x)) (m.owner x) m.scope
    = .ok (some d)

namespace TypeTable

mutual

/-- Making the native form of a datum fails with a root error, within members inside one another
whose lines are given. -/
inductive NativeFails (ts : TypeTable) (o : Options) :
    Nat → MemberType → Datum → List Fault → Error → Prop where
  /-- The type itself raises the error, whatever becomes of objects. -/
  | raised {nesting : Nat} {t : MemberType} {d : Datum} {root : Error}
    (h : ∀ objects, (t.codecWith objects).toNative o d = .error root) :
    NativeFails ts o nesting t d [] root
  | just {nesting : Nat} {t : MemberType} {d : Datum} {lines : List Fault} {root : Error}
    (h : NativeFails ts o nesting t d lines root) :
    NativeFails ts o nesting (.option t) (.just d) lines root
  | item {nesting : Nat} {t : MemberType} {ds : List Datum} {d : Datum} {lines : List Fault}
    {root : Error} (hd : d ∈ ds) (h : NativeFails ts o nesting t d lines root) :
    NativeFails ts o nesting (.list t) (.list ds) lines root
  | entry {nesting : Nat} {kind kind' : MapKind} {t : MemberType} {entries : List (String × Datum)}
    {p : String × Datum} {lines : List Fault} {root : Error} (hp : p ∈ entries)
    (h : NativeFails ts o nesting t p.2 lines root) :
    NativeFails ts o nesting (.map kind t) (.map kind' entries) lines root
  /-- There is no object of a known type, or it lies too deep. -/
  | unconvertible {nesting : Nat} {n : String} {d : Datum} {root : Error}
    (hd : ∀ y t, d = .object y → ts.find? n = some t → nesting = 0)
    (h : (ts.objectCodec nesting n).toNative o d = .error root) :
    NativeFails ts o nesting (.object n) d [] root
  /-- One of the object's members fails, and those before it have been written. -/
  | object {nesting : Nat} {n : String} {t : ObjectType MemberType} {y : Object}
    {before after : List (Member MemberType)} {m : Member MemberType} {tree : Tree}
    {lines : List Fault} {root : Error} (hfind : ts.find? n = some t)
    (hmembers : t.schema.members.filter o.includes = before ++ m :: after)
    (hbefore : writeMembers o y (before.map (ts.member nesting)) Tree.empty = (.ok (), tree))
    (h : WriteFails ts o nesting m y tree lines root) :
    NativeFails ts o (nesting + 1) (.object n) (.object y) lines root

/-- Writing a member of an object into a store fails with a root error, within members inside one
another whose lines are given. The first line is that of the member itself. -/
inductive WriteFails (ts : TypeTable) (o : Options) : {σ : Type} → [Store σ] →
    Nat → Member MemberType → Object → σ → List Fault → Error → Prop where
  /-- A rule of the member cannot be resolved, or an assertion does not hold. -/
  | rule {σ : Type} [Store σ] {nesting : Nat} {m : Member MemberType} {x : Object} {s : σ}
    {root : Error} (hroot : m.scope.Raises root)
    (h : (ts.member nesting m).toWrite o x = .error root) :
    WriteFails ts o nesting m x s [m.writeLine (m.get x)] root
  /-- The datum has no native form. -/
  | native {σ : Type} [Store σ] {nesting : Nat} {m : Member MemberType} {x : Object} {s : σ}
    {d : Datum} {lines : List Fault} {root : Error} (hd : (ts.member nesting m).Candidate o x d)
    (h : NativeFails ts o nesting m.type d lines root) :
    WriteFails ts o nesting m x s (m.writeLine d :: lines) root
  /-- The converters fail at the native form. -/
  | converter {σ : Type} [Store σ] {nesting : Nat} {m : Member MemberType} {x : Object} {s : σ}
    {d : Datum} {v : Value} {root : Error} (hd : (ts.member nesting m).Candidate o x d)
    (hnative : (ts.codecAt nesting m.type).toNative o d = .ok v)
    (h : o.registry.write v (ts.codecAt nesting m.type).constraint = .error root) :
    WriteFails ts o nesting m x s [m.writeLine d] root
  /-- The store refuses the value. -/
  | value {σ : Type} [Store σ] {nesting : Nat} {m : Member MemberType} {x : Object} {s s' : σ}
    {d : Datum} {v : Value} {root : Error}
    (hwrite : (ts.member nesting m).toWrite o x = .ok (some (d, v)))
    (h : Store.set s [m.key o] v = (.error root, s')) :
    WriteFails ts o nesting m x s [m.writeLine d] root
  /-- The store takes the value and refuses the comment. -/
  | comment {σ : Type} [Store σ] {nesting : Nat} {m : Member MemberType} {x : Object} {s s₁ s' : σ}
    {d : Datum} {v : Value} {old : Option Value} {text : String} {root : Error}
    (hwrite : (ts.member nesting m).toWrite o x = .ok (some (d, v)))
    (hset : Store.set s [m.key o] v = (.ok old, s₁)) (htext : m.rules.comment? = some text)
    (h : Store.setComment s₁ [m.key o] text = (.error root, s')) :
    WriteFails ts o nesting m x s [m.writeLine d] root

end

end TypeTable

/-! ## The way out of a member -/

section Member

variable {o : Options} {m : Member Codec} {x : Object} {e : Error}

end Member

section Store

variable {σ : Type} [Store σ] {o : Options} {m : Member Codec} {x : Object} {s s' : σ} {e : Error}

end Store

namespace TypeTable

variable {ts : TypeTable} {o : Options} {nesting : Nat}

section Run

variable {σ : Type} [Store σ] {x : Object} {s s' : σ} {e : Error}

end Run

end TypeTable

end ConfigBinding
