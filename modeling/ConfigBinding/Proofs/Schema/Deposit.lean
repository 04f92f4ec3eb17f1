import ConfigBinding.Proofs.Schema.Run
import ConfigBinding.Proofs.Tree.Laws

/-!
# What members put into a store

What a member is written as does not depend on the store, so it is known before anything is written
which deposits an object makes (`Schema.deposits`). A run puts them into the store one after the
other: all of them if it succeeds (`Schema.write_eq_putAll`), and else the first ones
(`Schema.exists_putAll`). Nothing else is done to the store.
-/

namespace ConfigBinding

/-- What a member puts into a store: the value that a datum of the member is stored as. -/
structure Deposit where
  member : Member Codec
  datum : Datum
  value : Value

/-- What the member puts into a store, if it is written. -/
def Member.deposit? (m : Member Codec) (o : Options) (x : Object) : Option Deposit :=
  match m.toWrite o x with
  | .ok (some (d, v)) => some ⟨m, d, v⟩
  | _ => none

theorem Member.deposit?_eq_some {m : Member Codec} {o : Options} {x : Object} {w : Deposit} :
    m.deposit? o x = some w ↔ w.member = m ∧ m.toWrite o x = .ok (some (w.datum, w.value)) := by
  obtain ⟨m', d, v⟩ := w
  rw [deposit?]
  split
  · rename_i d' v' h
    simp [h, eq_comm]
  · rename_i h
    simpa using fun _ heq => h _ _ heq

namespace Deposit

variable {σ : Type} [Store σ] {o : Options} {s : σ}

/-- The key that the deposit goes to. -/
def key (w : Deposit) (o : Options) : String := w.member.key o

/-- Puts a deposit into a store. -/
def put (o : Options) (s : σ) (w : Deposit) : σ := (w.member.store o w.datum w.value s).2

/-- Puts deposits into a store one after the other. -/
def putAll (o : Options) (s : σ) (log : List Deposit) : σ := log.foldl (put o) s

/-- In a store of keyed entries, a deposit changes at most the entry of its key. -/
theorem getRaw_put (hσ : Store.IsKeyed σ) (w : Deposit) (key : String) :
    Store.getRaw (put o s w) [key] = Store.getRaw s [key]
      ∨ w.key o = key ∧ Store.getRaw (put o s w) [key] = Entry.of (some w.value) := by
  have hcomment : ∀ s : σ, Store.getRaw (w.member.storeComment o w.datum s).2 [key]
      = Store.getRaw s [key] := by
    intro s
    rw [Member.storeComment]
    split
    · rfl
    · split
      · exact hσ.setComment s _ _ key
      · rfl
  have hput : Store.getRaw (put o s w) [key]
      = Store.getRaw (Store.set s [w.member.key o] w.value).2 [key] := by
    rw [put, Member.store]
    split
    · rename_i h
      rw [h]
    · rename_i h
      rw [h, hcomment]
  rw [hput]
  exact hσ.set s _ _ key

/-- In a store of keyed entries, an entry is as before, or it is that of a deposit. -/
theorem getRaw_putAll (hσ : Store.IsKeyed σ) (log : List Deposit) (key : String) :
    Store.getRaw (putAll o s log) [key] = Store.getRaw s [key]
      ∨ ∃ w ∈ log, w.key o = key ∧ Store.getRaw (putAll o s log) [key] = Entry.of (some w.value) := by
  induction log generalizing s with
  | nil => exact .inl rfl
  | cons w rest ih =>
    rcases ih (s := put o s w) with h | ⟨w', hw', h⟩
    · -- nothing behind the first deposit has changed the entry
      rcases getRaw_put hσ w key with hput | ⟨hkey, hput⟩
      · exact .inl (h.trans hput)
      · exact .inr ⟨w, List.mem_cons_self, hkey, h.trans hput⟩
    · exact .inr ⟨w', List.mem_cons_of_mem _ hw', h⟩

end Deposit

/-- The deposits of members, in their order. -/
def depositsOf (o : Options) (x : Object) (ms : List (Member Codec)) : List Deposit :=
  ms.filterMap (·.deposit? o x)

/-- The deposits of an object. -/
def Schema.deposits (schema : Schema Codec) (o : Options) (x : Object) : List Deposit :=
  depositsOf o x (schema.members.filter o.includes)

section Runs

variable {σ : Type} [Store σ] {schema : Schema Codec} {o : Options} {x : Object}
  {m : Member Codec} {ms : List (Member Codec)} {s s' : σ} {w : Deposit}

theorem depositsOf_cons_none (h : m.deposit? o x = none) :
    depositsOf o x (m :: ms) = depositsOf o x ms :=
  List.filterMap_cons_none h

theorem depositsOf_cons_some (h : m.deposit? o x = some w) :
    depositsOf o x (m :: ms) = w :: depositsOf o x ms :=
  List.filterMap_cons_some h

theorem Schema.mem_deposits :
    w ∈ schema.deposits o x ↔ w.member ∈ schema.members ∧ o.includes w.member = true
      ∧ w.member.toWrite o x = .ok (some (w.datum, w.value)) := by
  simp only [deposits, depositsOf, List.mem_filterMap, List.mem_filter, Member.deposit?_eq_some]
  constructor
  · rintro ⟨m, ⟨hm, hincluded⟩, rfl, hw⟩
    exact ⟨hm, hincluded, hw⟩
  · rintro ⟨hm, hincluded, hw⟩
    exact ⟨_, ⟨hm, hincluded⟩, rfl, hw⟩

/-- A member that has nothing to put into a store leaves it as it is. -/
theorem Member.write_of_deposit?_eq_none (h : m.deposit? o x = none) :
    (m.write o x s).2 = s := by
  rw [deposit?] at h
  rw [write]
  split
  · rfl
  · rfl
  · rename_i htoWrite
    rw [htoWrite] at h
    cases h

theorem Member.write_of_deposit?_eq_some (h : m.deposit? o x = some w) :
    (m.write o x s).2 = w.put o s := by
  obtain ⟨rfl, htoWrite⟩ := deposit?_eq_some.mp h
  rw [write, htoWrite]
  rfl

/-- Whether it succeeds or fails, a run leaves the store as the first deposits of its members make
it. -/
theorem exists_writeMembers_eq_putAll (s : σ) :
    ∃ log, log <+: depositsOf o x ms
      ∧ (writeMembers o x ms s).2 = Deposit.putAll o s log := by
  induction ms generalizing s with
  | nil => exact ⟨[], List.nil_prefix, rfl⟩
  | cons m rest ih =>
    rw [writeMembers]
    cases hdeposit : m.deposit? o x with
    | none =>
      have hsame := Member.write_of_deposit?_eq_none (s := s) hdeposit
      rw [depositsOf_cons_none hdeposit]
      split
      · rename_i hm
        rw [hm] at hsame
        exact ⟨[], List.nil_prefix, hsame⟩
      · rename_i s₁ hm
        rw [hm] at hsame
        obtain rfl : s₁ = s := hsame
        exact ih s₁
    | some w =>
      have hput := Member.write_of_deposit?_eq_some (s := s) hdeposit
      rw [depositsOf_cons_some hdeposit]
      split
      · rename_i hm
        rw [hm] at hput
        exact ⟨[w], List.prefix_append [w] _, hput⟩
      · rename_i s₁ hm
        rw [hm] at hput
        obtain rfl : s₁ = w.put o s := hput
        obtain ⟨log, hlog, hrest⟩ := ih (w.put o s)
        exact ⟨w :: log, (List.prefix_cons_inj w).mpr hlog, hrest⟩

theorem Schema.exists_putAll (s : σ) :
    ∃ log, log <+: schema.deposits o x ∧ (schema.write o x s).2 = Deposit.putAll o s log :=
  exists_writeMembers_eq_putAll s

/-- A run that succeeds leaves the store as all deposits of its members make it. -/
theorem writeMembers_eq_putAll (h : writeMembers o x ms s = (.ok (), s')) :
    s' = Deposit.putAll o s (depositsOf o x ms) := by
  induction ms generalizing s with
  | nil => exact (Prod.mk.inj h).2.symm
  | cons m rest ih =>
    rw [writeMembers] at h
    split at h
    · cases h
    · rename_i s₁ hm
      rw [ih h]
      cases hdeposit : m.deposit? o x with
      | none =>
        have hsame := Member.write_of_deposit?_eq_none (s := s) hdeposit
        rw [hm] at hsame
        rw [depositsOf_cons_none hdeposit]
        exact congrArg (Deposit.putAll o · _) hsame
      | some w =>
        have hput := Member.write_of_deposit?_eq_some (s := s) hdeposit
        rw [hm] at hput
        rw [depositsOf_cons_some hdeposit]
        exact congrArg (Deposit.putAll o · _) hput

theorem Schema.write_eq_putAll (h : schema.write o x s = (.ok (), s')) :
    s' = Deposit.putAll o s (schema.deposits o x) :=
  writeMembers_eq_putAll h

end Runs

end ConfigBinding
