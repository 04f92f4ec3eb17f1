import ConfigBinding.Schema.Write

/-!
# Reading objects

An object is read member by member, each from its entry in the store: the skip rules are asked, then
a default may take the place of the entry, else the entry is converted, then the assertions are
checked, and only then does the member get its new datum (`Member.toRead`). A member that is skipped
or fails leaves the object as it is, so after a failing run the object holds what the members before
have read.
-/

namespace ConfigBinding

namespace Member

/-- An error on the way of an entry into the object: final ones stay, others name the member. -/
def readError {τ : Type} (m : Member τ) (entry : Entry) (e : Error) : Error :=
  if e.isFinal then e else .wrap (.readMember m.declaringType m.name entry.display) e

/-- The datum that an entry stands for. An absent one stands for none. -/
def convert (m : Member Codec) (o : Options) (entry : Entry) : Result Datum :=
  match entry with
  | .absent => .error (.missingEntry (m.key o) m.name m.declaringType)
  | .null => (m.type.read o none).mapError (m.readError entry)
  | .present v => (m.type.read o (some v)).mapError (m.readError entry)

variable {σ : Type} [Store σ]

/-- The entry of a member. -/
def entry {τ : Type} (m : Member τ) (o : Options) (source : σ) : Entry :=
  Store.getRaw source [m.key o]

/-- What a member of an object is to become; a member that is skipped has nothing to become. -/
def toRead (m : Member Codec) (o : Options) (source : σ) (x : Object) : Result (Option Datum) := do
  let entry := m.entry o source
  if ← m.rules.shouldSkip .reading (.entry entry) (m.owner x) m.scope then return none
  let d ← match ← m.rules.findDefault m.type.name (.entry entry) (m.owner x) m.scope with
    | some d => pure d
    | none => m.convert o entry
  m.rules.checkAsserts m.type.name d (m.owner x) m.scope
  return some d

/-- Reads a member. -/
def read (m : Member Codec) (o : Options) (source : σ) (x : Object) : Outcome Object Unit :=
  match m.toRead o source x with
  | .error e => (.error e, x)
  | .ok none => (.ok (), x)
  | .ok (some d) => (.ok (), m.set x d)

end Member

/-- Reads members one after the other, up to the first one that fails. -/
def readMembers {σ : Type} [Store σ] (o : Options) (source : σ) :
    List (Member Codec) → Object → Outcome Object Unit
  | [], x => (.ok (), x)
  | m :: rest, x =>
    match m.read o source x with
    | (.error e, x) => (.error e, x)
    | (.ok _, x) => readMembers o source rest x

namespace Schema

/-- Reads the members of an object from a store. -/
def read {σ : Type} [Store σ] (schema : Schema Codec) (o : Options) (source : σ) (x : Object) :
    Outcome Object Unit :=
  readMembers o source (schema.members.filter o.includes) x

/-- The object that the members of another one are read into. -/
def readOver {σ : Type} [Store σ] (schema : Schema Codec) (o : Options) (source : σ) (x : Object) :
    Result Object :=
  let (r, x) := schema.read o source x
  r.map fun _ => x

end Schema

end ConfigBinding
