import ConfigBinding.Proofs.Object.Typing

/-!
# The places of members in an object

A member stands for one place in the objects of its type, a slot at the end of a chain of slots.
What is put there is found there again (`Member.get_set`), and at every place that neither contains
it nor lies inside it, nothing changes (`Member.get_set_of_apart`). So data can be copied from one
object into another member by member (`copyMembers`), and when the members reach every slot, the
copy is the original (`ObjectType.copyMembers_eq`).
-/

namespace ConfigBinding

namespace Keyed

variable {α : Type}

/-- Keyed lists with the same distinct keys are equal if they hold the same under each key. -/
theorem ext {xs ys : List (String × α)} (hdistinct : Distinct xs) (hkeys : keys xs = keys ys)
    (h : ∀ key ∈ keys xs, get? xs key = get? ys key) : xs = ys := by
  induction xs generalizing ys with
  | nil => exact (List.map_eq_nil_iff.mp hkeys.symm).symm
  | cons p rest ih =>
    obtain ⟨k, v⟩ := p
    cases ys with
    | nil => cases hkeys
    | cons q rest' =>
      obtain ⟨k', v'⟩ := q
      obtain ⟨rfl, hkeys'⟩ := List.cons.inj hkeys
      obtain ⟨hnew, hrest⟩ := List.nodup_cons.mp hdistinct
      have hhead := h k List.mem_cons_self
      rw [get?_cons, get?_cons, if_pos rfl, if_pos rfl] at hhead
      have htail : rest = rest' := by
        apply ih hrest hkeys'
        intro key hmem
        have hne : ¬ k = key := fun hk => hnew (hk ▸ hmem)
        have hkey := h key (List.mem_cons_of_mem _ hmem)
        rwa [get?_cons, get?_cons, if_neg hne, if_neg hne] at hkey
      rw [Option.some.inj hhead, htail]

end Keyed

namespace Object

variable {ts : TypeTable} {n : String} {t : ObjectType MemberType} {x y : Object}

/-- Objects of a type are equal if they hold the same in each of its slots. -/
theorem eq_of_get?_eq (hsound : t.IsSound ts) (hfind : ts.find? n = some t)
    (hx : (Datum.object x).HasType ts (.object n)) (hy : (Datum.object y).HasType ts (.object n))
    (h : ∀ s ∈ t.slots, x.get? s.name = y.get? s.name) : x = y := by
  obtain ⟨hxname, hxkeys, -⟩ := (hasType_iff hfind).mp hx
  obtain ⟨hyname, hykeys, -⟩ := (hasType_iff hfind).mp hy
  have hdistinct : Keyed.Distinct x.slots := by
    rw [Keyed.Distinct, hxkeys]
    exact hsound.distinct
  have hslots : x.slots = y.slots := by
    apply Keyed.ext hdistinct (hxkeys.trans hykeys.symm)
    intro key hkey
    rw [hxkeys] at hkey
    obtain ⟨s, hs, rfl⟩ := List.mem_map.mp hkey
    exact h s hs
  cases x
  cases y
  simp_all

theorem embedded?_set_self (slot : String) (sub : Object) :
    (x.set slot (.object sub)).embedded? slot = some sub :=
  embedded?_eq_some.mpr (Keyed.get?_insert_self _ _ _)

theorem get?_set_of_ne {slot slot' : String} (d : Datum) (h : slot' ≠ slot) :
    (x.set slot d).get? slot' = x.get? slot' :=
  Keyed.get?_insert_of_ne _ _ h

theorem embedded?_set_of_ne {slot slot' : String} (d : Datum) (h : slot' ≠ slot) :
    (x.set slot d).embedded? slot' = x.embedded? slot' := by
  rw [embedded?, embedded?, get?_set_of_ne d h]

/-- The object in a slot of the object at the end of a chain is at the end of the longer chain. -/
theorem part_append_of_get? {path : List String} {slot : String} {sub : Object}
    (h : (x.part path).get? slot = some (.object sub)) : x.part (path ++ [slot]) = sub := by
  induction path generalizing x with
  | nil =>
    have hembedded : x.embedded? slot = some sub := embedded?_eq_some.mpr h
    rw [List.nil_append, part, hembedded]
    rfl
  | cons slot' rest ih =>
    rw [List.cons_append, part]
    rw [part] at h
    cases hembedded : x.embedded? slot' with
    | none =>
      rw [hembedded] at h
      cases h
    | some sub' =>
      rw [hembedded] at h
      exact ih h

/-- What is done to the object at the end of a chain through its type is found there. -/
theorem part_updatePart (f : Object → Object) (hfind : ts.find? n = some t)
    (hx : (Datum.object x).HasType ts (.object n)) {path : List String} {slot : String}
    {type : MemberType} (h : t.Leads ts path slot type) :
    (x.updatePart f path).part path = f (x.part path) := by
  induction h generalizing n x with
  | here hs => rfl
  | inside hs htype hsub _ ih =>
    obtain ⟨sub, hembedded, hsubtype⟩ := exists_embedded? hfind hx hs htype
    rw [updatePart, hembedded, part, embedded?_set_self, part, hembedded]
    exact ih hsub hsubtype

/-- A change in one place is not seen at another one, if neither lies inside the other. -/
theorem get?_part_updatePart {path path' : List String} {slot slot' : String} (d : Datum)
    (h : ¬ path ++ [slot] <+: path' ++ [slot']) (h' : ¬ path' ++ [slot'] <+: path ++ [slot]) :
    ((x.updatePart (·.set slot d) path).part path').get? slot' = (x.part path').get? slot' := by
  induction path generalizing path' x with
  | nil =>
    cases path' with
    | nil => exact get?_set_of_ne d fun heq => h (by simp [heq])
    | cons s' rest' =>
      have hne : s' ≠ slot := fun heq => h (by simp [heq])
      rw [updatePart, part, embedded?_set_of_ne d hne, part]
  | cons s rest ih =>
    rw [updatePart]
    cases hembedded : x.embedded? s with
    | none => rfl
    | some sub =>
      cases path' with
      | nil => exact get?_set_of_ne _ fun heq => h' (by simp [heq])
      | cons s' rest' =>
        -- chains that part here stay apart, and others are followed one slot further
        by_cases hne : s' = s
        · subst hne
          rw [part, embedded?_set_self, part, hembedded]
          exact ih (by simpa using h) (by simpa using h')
        · rw [part, embedded?_set_of_ne _ hne, part]

/-- What the slot at the end of a chain of slots holds. -/
def at? (x : Object) (path : List String) (slot : String) : Option Datum := (x.part path).get? slot

theorem set_of_get? {slot : String} {d : Datum} (h : x.get? slot = some d) :
    x.set slot d = x := by
  obtain ⟨typeName, slots⟩ := x
  exact congrArg (Object.mk typeName) (Keyed.insert_of_get? h)

/-- Putting into a place what it holds changes nothing. -/
theorem updatePart_of_at? {path : List String} {slot : String} {d : Datum}
    (h : x.at? path slot = some d) : x.updatePart (·.set slot d) path = x := by
  induction path generalizing x with
  | nil => exact set_of_get? h
  | cons slot' rest ih =>
    rw [at?, part] at h
    rw [updatePart]
    cases hembedded : x.embedded? slot' with
    | none => rfl
    | some sub =>
      rw [hembedded] at h
      have hsub : sub.updatePart (·.set slot d) rest = sub := ih h
      dsimp only
      rw [hsub]
      exact set_of_get? (embedded?_eq_some.mp hembedded)

/-- What is put into a place is there, unless the chain of slots breaks and nothing changes. -/
theorem at?_updatePart_self (path : List String) (slot : String) (d : Datum) :
    (x.updatePart (·.set slot d) path).at? path slot = some d
      ∨ x.updatePart (·.set slot d) path = x := by
  induction path generalizing x with
  | nil => exact .inl (Keyed.get?_insert_self _ _ _)
  | cons slot' rest ih =>
    rw [updatePart]
    cases hembedded : x.embedded? slot' with
    | none => exact .inr rfl
    | some sub =>
      rcases ih (x := sub) with h | h
      · refine .inl ?_
        rw [at?, part, embedded?_set_self]
        exact h
      · dsimp only
        rw [h]
        exact .inr (set_of_get? (embedded?_eq_some.mp hembedded))

/-! ### Two changes in one object -/

theorem set_set_self (x : Object) (slot : String) (d e : Datum) :
    (x.set slot d).set slot e = x.set slot e :=
  congrArg (Object.mk x.typeName) (Keyed.insert_insert_self x.slots slot d e)

/-- Slots may be set in either order, if the object has one of them. -/
theorem set_comm {slot slot' : String} (hne : slot ≠ slot') (h : (x.get? slot).isSome)
    (d e : Datum) : (x.set slot d).set slot' e = (x.set slot' e).set slot d :=
  congrArg (Object.mk x.typeName) (Keyed.insert_comm hne h d e)

/-- Setting a slot and changing something inside another one may be done in either order. -/
theorem set_updatePart_comm {slot slot' : String} (hne : slot ≠ slot') (h : (x.get? slot).isSome)
    (d : Datum) (f : Object → Object) (rest : List String) :
    (x.set slot d).updatePart f (slot' :: rest) = (x.updatePart f (slot' :: rest)).set slot d := by
  rw [updatePart, updatePart, embedded?_set_of_ne d hne.symm]
  cases x.embedded? slot' with
  | none => rfl
  | some sub => exact set_comm hne h d _

/-- A chain of slots that leads to something starts with an object. -/
theorem exists_embedded?_of_at? {path : List String} {slot slot' : String}
    (h : (x.at? (slot :: path) slot').isSome) :
    ∃ sub, x.embedded? slot = some sub ∧ (sub.at? path slot').isSome := by
  rw [at?, part] at h
  cases hembedded : x.embedded? slot with
  | none =>
    rw [hembedded] at h
    cases h
  | some sub =>
    rw [hembedded] at h
    exact ⟨sub, rfl, h⟩

/-- What is put into a place that is there is there afterwards. -/
theorem at?_updatePart_of_isSome {path : List String} {slot : String}
    (h : (x.at? path slot).isSome) (d : Datum) :
    (x.updatePart (·.set slot d) path).at? path slot = some d := by
  induction path generalizing x with
  | nil => exact Keyed.get?_insert_self _ _ _
  | cons slot' rest ih =>
    obtain ⟨sub, hsub, hin⟩ := exists_embedded?_of_at? h
    rw [updatePart, hsub, at?, part, embedded?_set_self]
    exact ih hin

/-- Two places, neither of which lies inside the other, may be changed in either order. -/
theorem updatePart_comm {path path' : List String} {slot slot' : String}
    (h : ¬ path ++ [slot] <+: path' ++ [slot']) (h' : ¬ path' ++ [slot'] <+: path ++ [slot])
    (hx : (x.at? path slot).isSome) (hx' : (x.at? path' slot').isSome) (d e : Datum) :
    (x.updatePart (·.set slot d) path).updatePart (·.set slot' e) path'
      = (x.updatePart (·.set slot' e) path').updatePart (·.set slot d) path := by
  induction path generalizing path' x with
  | nil =>
    cases path' with
    | nil => exact set_comm (fun heq => h (by simp [heq])) hx d e
    | cons s' rest' => exact set_updatePart_comm (fun heq => h (by simp [heq])) hx d _ rest'
  | cons s rest ih =>
    cases path' with
    | nil => exact (set_updatePart_comm (fun heq => h' (by simp [heq])) hx' e _ rest).symm
    | cons s' rest' =>
      obtain ⟨sub, hsub, hin⟩ := exists_embedded?_of_at? hx
      obtain ⟨sub', hsub', hin'⟩ := exists_embedded?_of_at? hx'
      by_cases hne : s = s'
      · -- both changes are made inside the same object
        subst hne
        obtain rfl := Option.some.inj (hsub.symm.trans hsub')
        have hcomm := ih (by simpa using h) (by simpa using h') hin hin'
        simp only [updatePart, hsub, embedded?_set_self, set_set_self, hcomm]
      · simp only [updatePart, hsub, hsub', embedded?_set_of_ne _ hne,
          embedded?_set_of_ne _ (Ne.symm hne)]
        exact set_comm hne (by rw [embedded?_eq_some.mp hsub]; rfl) _ _

end Object

namespace Member

variable {τ : Type}

/-- The chain of slots that leads to the datum of the member. -/
def place (m : Member τ) : List String := m.path ++ [m.slot]

/-- The member does not lie inside a slot, nor the slot inside the member. -/
def Avoids (m : Member τ) (path : List String) (slot : String) : Prop :=
  ¬ m.place <+: path ++ [slot] ∧ ¬ path ++ [slot] <+: m.place

/-- Neither of two members lies inside the other. -/
def Apart {υ : Type} (m : Member τ) (m' : Member υ) : Prop :=
  ¬ m.place <+: m'.place ∧ ¬ m'.place <+: m.place

instance {υ : Type} (m : Member τ) (m' : Member υ) : Decidable (m.Apart m') :=
  inferInstanceAs (Decidable (_ ∧ _))

/-- A member has the datum that it was given. -/
theorem get_set {ts : TypeTable} {n : String} {t : ObjectType MemberType} {x : Object}
    {m : Member τ} {type : MemberType} (hfind : ts.find? n = some t)
    (hx : (Datum.object x).HasType ts (.object n)) (h : t.Leads ts m.path m.slot type) (d : Datum) :
    m.get (m.set x d) = d := by
  have hset : ((m.owner x).set m.slot d).get? m.slot = some d := Keyed.get?_insert_self _ _ _
  rw [get, owner, set, Object.part_updatePart _ hfind hx h, Object.get]
  rw [owner] at hset
  rw [hset, Option.getD_some]

/-- Members apart from it keep the data that they have. -/
theorem get_set_of_apart {υ : Type} {m : Member τ} {m' : Member υ} (h : m'.Apart m) (x : Object)
    (d : Datum) : m'.get (m.set x d) = m'.get x := by
  rw [get, owner, set, Object.get, Object.get?_part_updatePart d h.2 h.1]
  rfl

/-- A member that is given a datum changes no slot that it avoids. -/
theorem at?_set_of_avoids {m : Member τ} {path : List String} {slot : String}
    (h : m.Avoids path slot) (x : Object) (d : Datum) : (m.set x d).at? path slot = x.at? path slot :=
  Object.get?_part_updatePart d h.1 h.2

/-- Members apart from each other may be given their data in either order. -/
theorem set_comm {m m' : Member τ} (h : m.Apart m') {x : Object}
    (hx : (x.at? m.path m.slot).isSome) (hx' : (x.at? m'.path m'.slot).isSome) (d e : Datum) :
    m'.set (m.set x d) e = m.set (m'.set x e) d :=
  Object.updatePart_comm h.1 h.2 hx hx' d e

end Member

/-- Gives members of one object the data that they have in another one. -/
def copyMembers {τ : Type} (ms : List (Member τ)) (source target : Object) : Object :=
  ms.foldl (fun y m => m.set y (m.get source)) target

section Copy

variable {ts : TypeTable} {n : String} {t : ObjectType MemberType} {x y : Object}
  {ms : List (Member MemberType)}

/-- A member apart from those that are copied keeps its datum. -/
theorem get_copyMembers_of_apart {m : Member MemberType} (h : ∀ m' ∈ ms, m.Apart m') :
    m.get (copyMembers ms x y) = m.get y := by
  induction ms generalizing y with
  | nil => rfl
  | cons m' rest ih =>
    obtain ⟨hhead, hrest⟩ := List.forall_mem_cons.mp h
    have hrest' := ih hrest (y := m'.set y (m'.get x))
    exact hrest'.trans (Member.get_set_of_apart hhead y _)

/-- The datum of a member has the member's type. -/
theorem Member.hasType_get {m : Member MemberType} (hfind : ts.find? n = some t)
    (hx : (Datum.object x).HasType ts (.object n)) (h : t.Leads ts m.path m.slot m.type) :
    (m.get x).HasType ts m.type := by
  obtain ⟨d, hget, hd⟩ := Object.exists_get?_part hfind hx h
  rw [get, owner, Object.get, hget]
  exact hd

/-- Copying members does not change the type of the object. -/
theorem hasType_copyMembers (hts : ts.IsSound) (hfind : ts.find? n = some t)
    (hx : (Datum.object x).HasType ts (.object n)) (hy : (Datum.object y).HasType ts (.object n))
    (hleads : ∀ m ∈ ms, t.Leads ts m.path m.slot m.type) :
    (Datum.object (copyMembers ms x y)).HasType ts (.object n) := by
  induction ms generalizing y with
  | nil => exact hy
  | cons m rest ih =>
    obtain ⟨hhead, hrest⟩ := List.forall_mem_cons.mp hleads
    have hset : (Datum.object (m.set y (m.get x))).HasType ts (.object n) :=
      Object.hasType_updatePart hts hfind hy hhead (Member.hasType_get hfind hx hhead)
    exact ih hset hrest

/-- Members that are apart from each other are all copied: the ones that come later leave the
earlier ones alone. -/
theorem get_copyMembers (hts : ts.IsSound) (hfind : ts.find? n = some t)
    (hx : (Datum.object x).HasType ts (.object n)) (hy : (Datum.object y).HasType ts (.object n))
    (hleads : ∀ m ∈ ms, t.Leads ts m.path m.slot m.type) (hapart : ms.Pairwise Member.Apart) :
    ∀ m ∈ ms, m.get (copyMembers ms x y) = m.get x := by
  induction ms generalizing y with
  | nil => simp
  | cons m rest ih =>
    obtain ⟨hhead, hrest⟩ := List.forall_mem_cons.mp hleads
    obtain ⟨hheadApart, hrestApart⟩ := List.pairwise_cons.mp hapart
    have hset : (Datum.object (m.set y (m.get x))).HasType ts (.object n) :=
      Object.hasType_updatePart hts hfind hy hhead (Member.hasType_get hfind hx hhead)
    -- the member has its datum as soon as it is copied, and the rest leaves it alone
    have hcopied : m.get (copyMembers (m :: rest) x y) = m.get x := by
      have hkept := get_copyMembers_of_apart (x := x) (y := m.set y (m.get x)) hheadApart
      exact hkept.trans (Member.get_set hfind hy hhead _)
    exact List.forall_mem_cons.mpr ⟨hcopied, ih hset hrest hrestApart⟩

end Copy

/-- A slot of the object at the end of a chain is reached: a member stands for it, or it holds an
object all of whose slots are reached. -/
inductive SlotReached (ts : TypeTable) (ms : List (Member MemberType)) :
    List String → Slot MemberType → Prop where
  | member {m : Member MemberType} {s : Slot MemberType} (hm : m ∈ ms) (hslot : m.slot = s.name) :
    SlotReached ts ms m.path s
  | parts {path : List String} {s : Slot MemberType} {n : String} {sub : ObjectType MemberType}
    (htype : s.type = .object n) (hfind : ts.find? n = some sub)
    (h : ∀ s' ∈ sub.slots, SlotReached ts ms (path ++ [s.name]) s') : SlotReached ts ms path s

/-- Every slot of the type's objects is reached by exactly one member. -/
structure ObjectType.ReachesOnce (ts : TypeTable) (t : ObjectType MemberType) : Prop where
  apart : t.schema.members.Pairwise Member.Apart
  reached : ∀ s ∈ t.slots, SlotReached ts t.schema.members [] s

section Reach

variable {ts : TypeTable} {n : String} {t : ObjectType MemberType} {x y : Object}

/-- Objects whose members have the same data hold the same in each slot that is reached. -/
theorem SlotReached.eq_of_get_eq {ms : List (Member MemberType)} (hts : ts.IsSound)
    (hmembers : ∀ m ∈ ms, m.get x = m.get y) {path : List String} {s : Slot MemberType}
    (h : SlotReached ts ms path s) {d e : Datum} (hd : (x.part path).get? s.name = some d)
    (he : (y.part path).get? s.name = some e) (hdtype : d.HasType ts s.type)
    (hetype : e.HasType ts s.type) : d = e := by
  induction h generalizing d e with
  | @member m s hm hslot =>
    have hget := hmembers m hm
    rw [Member.get, Member.owner, Object.get, hslot, hd, Member.get, Member.owner, Object.get,
      hslot, he] at hget
    exact hget
  | @parts path s n sub htype hfind _ ih =>
    rw [htype] at hdtype hetype
    obtain ⟨x', rfl⟩ := Object.exists_of_hasType hdtype
    obtain ⟨y', rfl⟩ := Object.exists_of_hasType hetype
    have hslots : ∀ s' ∈ sub.slots, x'.get? s'.name = y'.get? s'.name := by
      intro s' hs'
      obtain ⟨d', hd', hdtype'⟩ := Object.exists_get? hfind hdtype hs'
      obtain ⟨e', he', hetype'⟩ := Object.exists_get? hfind hetype hs'
      rw [hd', he']
      -- what a slot of the inner objects holds lies one slot further from the outer ones
      refine congrArg some (ih s' hs' ?_ ?_ hdtype' hetype')
      · rw [Object.part_append_of_get? hd, hd']
      · rw [Object.part_append_of_get? he, he']
    exact congrArg Datum.object
      (Object.eq_of_get?_eq (hts _ (TypeTable.mem_of_find? hfind)) hfind hdtype hetype hslots)

/-- Objects of a type whose members reach every slot are equal if the members have the same data. -/
theorem ObjectType.ReachesOnce.eq_of_get_eq (hts : ts.IsSound) (hreach : t.ReachesOnce ts)
    (hfind : ts.find? n = some t) (hx : (Datum.object x).HasType ts (.object n))
    (hy : (Datum.object y).HasType ts (.object n))
    (hmembers : ∀ m ∈ t.schema.members, m.get x = m.get y) : x = y := by
  apply Object.eq_of_get?_eq (hts _ (TypeTable.mem_of_find? hfind)) hfind hx hy
  intro s hs
  obtain ⟨d, hd, hdtype⟩ := Object.exists_get? hfind hx hs
  obtain ⟨e, he, hetype⟩ := Object.exists_get? hfind hy hs
  rw [hd, he, (hreach.reached s hs).eq_of_get_eq hts hmembers hd he hdtype hetype]

/-- Copying the members of a type that reach every slot makes the target the source. -/
theorem ObjectType.copyMembers_eq (hts : ts.IsSound) (hreach : t.ReachesOnce ts)
    (hfind : ts.find? n = some t) (hx : (Datum.object x).HasType ts (.object n))
    (hy : (Datum.object y).HasType ts (.object n)) :
    copyMembers t.schema.members x y = x := by
  have hleads := (hts t (TypeTable.mem_of_find? hfind)).leads
  have hget := get_copyMembers hts hfind hx hy hleads hreach.apart
  exact hreach.eq_of_get_eq hts hfind (hasType_copyMembers hts hfind hx hy hleads) hx hget

end Reach

end ConfigBinding
