import ConfigBinding.Codec.Basic
import ConfigBinding.Schema.Basic
import ConfigBinding.Tree.Store

/-!
# Writing objects

An object is written member by member. For each member the skip rules are asked, then a default may
take the place of its datum, then the assertions are checked, and only then is anything written:
`Member.toWrite` decides without looking at the store, and `Member.store` does the writing. A member
that fails stops the run, and what the members before it have written stays.

Errors that are not final say which member they are about, once for each object that they come out
of.
-/

namespace ConfigBinding

/-- The outcome of a step on a store, which may have changed even if the step fails. -/
abbrev Outcome (σ α : Type) := Result α × σ

namespace Member

/-- The key of a member. -/
def key {τ : Type} (m : Member τ) (o : Options) : String :=
  m.rules.key o.naming.transform m.name

/-- An error on the way of a datum out of the object: final ones stay, others name the member. -/
def writeError {τ : Type} (m : Member τ) (d : Datum) (e : Error) : Error :=
  if e.isFinal then e else .wrap (.writeMember m.declaringType m.name d.inspect) e

/-- The native form of a datum of a member. -/
def native (m : Member Codec) (o : Options) (d : Datum) : Result Value :=
  (m.type.toNative o d).mapError (m.writeError d)

/-- The native form of the member's own datum. -/
def ownNative (m : Member Codec) (o : Options) (x : Object) : Thunk (Result Value) :=
  .mk fun _ => m.native o (m.get x)

/-- What rules see of a member that is to be written. -/
def observed {τ : Type} (m : Member τ) (x : Object) (own : Thunk (Result Value)) : Observation :=
  .ofDatum (m.get x) own

/-- The datum to write and its native form: a default, if one applies, else the member's own. -/
def substituted (m : Member Codec) (o : Options) (x : Object) (own : Thunk (Result Value)) :
    Result (Datum × Value) := do
  match ← m.rules.findDefault m.type.name (m.observed x own) (m.owner x) m.scope with
  | some d => return (d, ← m.native o d)
  | none => return (m.get x, ← own.get)

/-- What is written for a member: a datum, and the value that it is stored as. A member that is
skipped has nothing to write. -/
def toWrite (m : Member Codec) (o : Options) (x : Object) : Result (Option (Datum × Value)) := do
  let own := m.ownNative o x
  if ← m.rules.shouldSkip .writing (m.observed x own) (m.owner x) m.scope then return none
  let (d, native) ← m.substituted o x own
  m.rules.checkAsserts m.type.name d (m.owner x) m.scope
  let stored ← (o.registry.write native m.type.constraint).mapError (m.writeError d)
  return some (d, stored)

variable {σ : Type} [Store σ]

/-- Writes the comment of a member, where there is one and the store keeps comments. -/
def storeComment (m : Member Codec) (o : Options) (d : Datum) (s : σ) : Outcome σ Unit :=
  match m.rules.comment? with
  | none => (.ok (), s)
  | some text =>
    if Store.supportsComments s then
      let (r, s) := Store.setComment s [m.key o] text
      ((r.map fun _ => ()).mapError (m.writeError d), s)
    else (.ok (), s)

/-- Stores the value of a member, and then its comment. -/
def store (m : Member Codec) (o : Options) (d : Datum) (v : Value) (s : σ) : Outcome σ Unit :=
  match Store.set s [m.key o] v with
  | (.error e, s) => (.error (m.writeError d e), s)
  | (.ok _, s) => m.storeComment o d s

/-- Writes a member. -/
def write (m : Member Codec) (o : Options) (x : Object) (s : σ) : Outcome σ Unit :=
  match m.toWrite o x with
  | .error e => (.error e, s)
  | .ok none => (.ok (), s)
  | .ok (some (d, v)) => m.store o d v s

end Member

/-- Whether a member takes part in a run. -/
def Options.includes {τ : Type} (o : Options) (m : Member τ) : Bool :=
  !(o.skipsTransient && m.rules.isTransient)

/-- Writes members one after the other, up to the first one that fails. -/
def writeMembers {σ : Type} [Store σ] (o : Options) (x : Object) :
    List (Member Codec) → σ → Outcome σ Unit
  | [], s => (.ok (), s)
  | m :: rest, s =>
    match m.write o x s with
    | (.error e, s) => (.error e, s)
    | (.ok _, s) => writeMembers o x rest s

namespace Schema

/-- Writes the members of an object into a store. -/
def write {σ : Type} [Store σ] (schema : Schema Codec) (o : Options) (x : Object) (s : σ) :
    Outcome σ Unit :=
  writeMembers o x (schema.members.filter o.includes) s

/-- The tree that an object is written as. -/
def toTree (schema : Schema Codec) (o : Options) (x : Object) : Result Tree :=
  let (r, t) := schema.write o x Tree.empty
  r.map fun _ => t

end Schema

end ConfigBinding
