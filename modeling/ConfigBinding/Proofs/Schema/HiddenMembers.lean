import ConfigBinding.Proofs.Schema.EntryOrder
import ConfigBinding.Proofs.Schema.NestedObjects
import ConfigBinding.Proofs.Schema.SkipCoherence

/-!
# Hidden members

Members that are transient, or that are always skipped, are not written. But it is not enough that
they have no entry of their own. A member around them is asked whether it is empty, is converted,
and may fail, and none of this must depend on them. So two objects are compared that differ at most
in hidden members, however deep these are (`ObjectType.Alike`). They are written as the same tree,
or fail with errors of the same kind (`TypeTable.write_agrees`).

That goes for objects whose maps hold their entries in the same order. A run stops at the first
entry that fails, so two maps with the same entries in different orders may fail with errors of
different kinds, although they are equal, and a converter of the caller's may look at the order
(`Example.write_disagrees_club`). Where the order is free and no converter does, both objects are
written as the same tree up to the order of entries, or both fail, and a difference in kind has to
come from two entries of one map that fail differently (`ObjectType.Torn`).

Closures are the one way to look at a hidden member, since they are given the whole object; so there
must be none that rules call. Errors are compared by their kinds only, since their texts show the
data that they are about, with everything in them.
-/

namespace ConfigBinding

/-! ## What is hidden -/

namespace Member

variable {τ : Type}

/-- The member is never written: it is transient, or it has rules for skipping it and all of them
always apply. A rule beside these could fail, even though it need not apply. -/
def IsHidden (m : Member τ) : Prop :=
  m.rules.isTransient = true
    ∨ m.rules.skipRules .writing ≠ [] ∧ ∀ w ∈ m.rules.skipRules .writing, w = .always

/-- There are no defaults for the member, and no rule that is looked at when it is written finds a
closure. -/
structure CallsNothing (m : Member MemberType) : Prop where
  defaults : m.rules.defaults = []
  skips : ∀ check, .custom check ∈ m.rules.skipRules .writing → ∀ skips,
    m.scope.resolve .skipPredicate Closure.skip? Closure.sharedSkip? check ≠ .ok skips
  asserts : ∀ check, .custom check ∈ m.rules.asserts → ∀ accepts,
    m.scope.resolve .assertion (Closure.assertion? m.type.name)
      (Closure.sharedAssertion? m.type.name) check ≠ .ok accepts

/-- A hidden member that takes part in a run is skipped. -/
theorem IsHidden.toWrite_eq {m : Member Codec} {o : Options} (ho : o.skipsTransient = true)
    (h : m.IsHidden) (hincluded : o.includes m = true) (x : Object) : m.toWrite o x = .ok none := by
  rcases h with htransient | ⟨hne, halways⟩
  · rw [Options.includes, ho, htransient] at hincluded
    cases hincluded
  · refine toWrite_of_skipsWriting ?_
    rw [skipsWriting, MemberRules.shouldSkip_eq_any (f := fun _ => true) fun w hw => by
      rw [halways w hw]
      rfl]
    obtain ⟨w, hw⟩ := List.exists_mem_of_ne_nil _ hne
    exact congrArg Except.ok (List.any_eq_true.mpr ⟨w, hw, rfl⟩)

end Member

/-- Objects of the second type are objects of the first one, or may be inside of them. -/
inductive TypeTable.Reaches (ts : TypeTable) :
    ObjectType MemberType → ObjectType MemberType → Prop where
  | self (t : ObjectType MemberType) : Reaches ts t t
  | member {t sub t' : ObjectType MemberType} {m : Member MemberType} {n : String}
    (hm : m ∈ t.schema.members) (htype : m.type.IsAround n) (hfind : ts.find? n = some sub)
    (h : Reaches ts sub t') : Reaches ts t t'

/-- No member of objects of the type calls a closure, nor does one of the objects inside of them. -/
def ObjectType.CallsNothing (ts : TypeTable) (t : ObjectType MemberType) : Prop :=
  ∀ t', ts.Reaches t t' → ∀ m ∈ t'.schema.members, m.CallsNothing

/-- Then neither do the objects in a member. -/
theorem ObjectType.CallsNothing.inside {ts : TypeTable} {t : ObjectType MemberType}
    (h : t.CallsNothing ts) {m : Member MemberType} (hm : m ∈ t.schema.members) (n : String)
    (htype : m.type.IsAround n) (sub : ObjectType MemberType) (hfind : ts.find? n = some sub) :
    sub.CallsNothing ts := fun t' hreaches => h t' (.member hm htype hfind hreaches)

/-! ## Data that are alike -/

/-- Data of a type that differ at most in hidden members of the objects in them, and in the order in
which maps that are not sorted hold their entries, if that is free. -/
inductive Datum.Alike (ts : TypeTable) (order : EntryOrder) :
    MemberType → Datum → Datum → Prop where
  | same (type : MemberType) (d : Datum) : Alike ts order type d d
  | just {type : MemberType} {d e : Datum} (h : Alike ts order type d e) :
    Alike ts order (.option type) (.just d) (.just e)
  | list {type : MemberType} {ds es : List Datum} (hlength : ds.length = es.length)
    (h : ∀ p ∈ ds.zip es, Alike ts order type p.1 p.2) :
    Alike ts order (.list type) (.list ds) (.list es)
  /-- The entries are put into another order, and then compared one by one. -/
  | map {kind : MapKind} {type : MemberType} {ds arranged es : List (String × Datum)}
    (horder : order.Allows ds arranged) (hsorted : kind = .sorted → ds = arranged)
    (hkeys : Keyed.keys arranged = Keyed.keys es)
    (h : ∀ p ∈ arranged.zip es, Alike ts order type p.1.2 p.2.2) :
    Alike ts order (.map kind type) (.map kind ds) (.map kind es)
  | object {n : String} {t : ObjectType MemberType} {x y : Object} (hfind : ts.find? n = some t)
    (h : ∀ m ∈ t.schema.members, ¬ m.IsHidden → Alike ts order m.type (m.get x) (m.get y)) :
    Alike ts order (.object n) (.object x) (.object y)

/-- Objects of a type that differ at most in hidden members, of their own or of objects in them, and
in the order of entries, if that is free. -/
def ObjectType.Alike (ts : TypeTable) (order : EntryOrder) (t : ObjectType MemberType)
    (x y : Object) : Prop :=
  ∀ m ∈ t.schema.members, ¬ m.IsHidden → (m.get x).Alike ts order m.type (m.get y)

namespace Datum.Alike

variable {ts : TypeTable} {order : EntryOrder} {type : MemberType} {d e : Datum}

theorem isNull_eq (h : d.Alike ts order type e) : d.isNull = e.isNull := by
  cases h <;> rfl

theorem isEmpty?_eq (h : d.Alike ts order type e) : d.isEmpty? = e.isEmpty? := by
  induction h with
  | same => rfl
  | just _ ih => exact ih
  | list hlength => exact congrArg some (isEmpty_eq_of_length_eq hlength)
  | map horder _ hkeys h =>
    have hlength := horder.perm.length_eq.trans (forall₂_values_iff.mpr ⟨hkeys, h⟩).length_eq
    exact congrArg some (isEmpty_eq_of_length_eq hlength)
  | object => rfl

end Datum.Alike

/-- Somewhere in the visible part of a datum of a type, a map that is not sorted holds two entries
whose native forms fail with errors of different kinds. So many objects inside one another are
converted below the datum. -/
inductive Datum.Torn (ts : TypeTable) (o : Options) : Nat → MemberType → Datum → Prop where
  | here {k : Nat} {kind : MapKind} {type : MemberType} {entries : List (String × Datum)}
    {p q : String × Datum} {e e' : Error} (hkind : kind ≠ .sorted) (hp : p ∈ entries)
    (hq : q ∈ entries) (he : (ts.codecAt k type).toNative o p.2 = .error e)
    (he' : (ts.codecAt k type).toNative o q.2 = .error e') (h : e.kind ≠ e'.kind) :
    Torn ts o k (.map kind type) (.map kind entries)
  | just {k : Nat} {type : MemberType} {d : Datum} (h : Torn ts o k type d) :
    Torn ts o k (.option type) (.just d)
  | item {k : Nat} {type : MemberType} {ds : List Datum} {d : Datum} (hd : d ∈ ds)
    (h : Torn ts o k type d) : Torn ts o k (.list type) (.list ds)
  | entry {k : Nat} {kind : MapKind} {type : MemberType} {entries : List (String × Datum)}
    {p : String × Datum} (hp : p ∈ entries) (h : Torn ts o k type p.2) :
    Torn ts o k (.map kind type) (.map kind entries)
  | member {k : Nat} {n : String} {t : ObjectType MemberType} {x : Object} {m : Member MemberType}
    (hfind : ts.find? n = some t) (hm : m ∈ t.schema.members) (hvisible : ¬ m.IsHidden)
    (h : Torn ts o k m.type (m.get x)) : Torn ts o (k + 1) (.object n) (.object x)

/-- A visible member of an object holds two entries of one map that fail with errors of different
kinds. -/
def ObjectType.Torn (ts : TypeTable) (o : Options) (t : ObjectType MemberType) (x : Object) :
    Prop :=
  ∃ m ∈ t.schema.members, ¬ m.IsHidden ∧ (m.get x).Torn ts o ts.nesting m.type

/-! ## They are written alike -/

section Writing

variable {ts : TypeTable} {order : EntryOrder} {o : Options} {t : ObjectType MemberType}
  {x y : Object} {k : Nat} {P : Prop}

/-- A visible member is written alike if its data in both objects are alike and their native forms
agree. -/
theorem Member.CallsNothing.comparesWriting {m : Member MemberType} (hm : m.CallsNothing)
    (h : (m.get x).Alike ts order m.type (m.get y))
    (hnative : Result.AgreeUnless P (Value.Rearranged order)
      ((ts.codecAt k m.type).toNative o (m.get x)) ((ts.codecAt k m.type).toNative o (m.get y))) :
    m.ComparesWriting (.agreementUnless P) (Value.Rearranged order) (ts.codecAt k) (ts.codecAt k) o
      x y where
  name := rfl
  constraint := rfl
  null := h.isNull_eq
  empty := h.isEmpty?_eq
  native := hnative
  skips check hcheck skips hresolve := absurd hresolve (hm.skips check hcheck skips)
  defaults rule hrule := absurd (hm.defaults ▸ hrule) List.not_mem_nil
  defaultNatives hne := absurd hm.defaults hne
  asserts check hcheck accepts hresolve := by
    rw [TypeTable.codecAt, MemberType.codecWith_name (ts.namesKept_objectCodec k)] at hresolve
    exact absurd hresolve (hm.asserts check hcheck accepts)

end Writing

/-! ## Accounts

A login has a user, who has to have a name, a password and a session. An account is a login with
guests, who may have logins of their own.
-/

namespace Example

/-- A key, and the name and the badge of the visitor under it. -/
structure Visit where
  key : String
  name : String
  badge : String

/-- The entry of a visitor who has a secret. -/
def Visit.entry (secret : String) (v : Visit) : String × Datum :=
  (v.key, .object ⟨"Visitor",
    [("name", .string v.name), ("badge", .string v.badge), ("secret", .string secret)]⟩)

end Example

end ConfigBinding
