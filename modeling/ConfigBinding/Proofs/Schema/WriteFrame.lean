import ConfigBinding.Proofs.Schema.Deposit
import ConfigBinding.Proofs.Schema.ReadFrame

/-!
# What writing leaves alone

On a tree, all deposits of an object together are an insertion of their values under their keys, and
of their comments (`Deposit.entries_putAll`, `Deposit.comments_putAll`). So keys that are there stay
where they are, and what no deposit goes to does not change (`Tree.Rewritten`).

When writing fails, the store holds what the members before the failing one have left. Only a store
that refuses a comment, after it has taken the entry, holds that entry, too (`Member.WriteFails`).
-/

namespace ConfigBinding

/-! ## Deposits in a tree -/

namespace Deposit

variable {o : Options} {t : Tree} {w : Deposit} {log : List Deposit}

/-- The comment that comes with a deposit, and its key. -/
def comment? (o : Options) (w : Deposit) : Option (String × String) :=
  w.member.rules.comment?.map fun text => (w.key o, text)

theorem entries_put (t : Tree) (w : Deposit) :
    (put o t w).entries = Keyed.insert t.entries (w.key o) w.value := by
  show (w.member.storeComment o w.datum (t.insert (w.key o) w.value)).2.entries = _
  rw [Member.storeComment]
  split <;> rfl

theorem comments_put (t : Tree) (w : Deposit) :
    (put o t w).comments = Keyed.insertAll t.comments (w.comment? o).toList := by
  show (w.member.storeComment o w.datum (t.insert (w.key o) w.value)).2.comments = _
  rw [Member.storeComment, comment?]
  split <;> rename_i hcomment <;> rw [hcomment] <;> rfl

/-- Deposits insert their values. -/
theorem entries_putAll (t : Tree) (log : List Deposit) :
    (putAll o t log).entries
      = Keyed.insertAll t.entries (log.map fun w => (w.key o, w.value)) := by
  induction log generalizing t with
  | nil => rfl
  | cons w rest ih => rw [putAll, List.foldl_cons, ← putAll, ih, entries_put]; rfl

/-- Deposits insert their comments. -/
theorem comments_putAll (t : Tree) (log : List Deposit) :
    (putAll o t log).comments = Keyed.insertAll t.comments (log.filterMap (comment? o)) := by
  induction log generalizing t with
  | nil => rfl
  | cons w rest ih =>
    rw [putAll, List.foldl_cons, ← putAll, ih, comments_put]
    cases hcomment : w.comment? o with
    | none => rw [List.filterMap_cons_none hcomment]; rfl
    | some p => rw [List.filterMap_cons_some hcomment]; rfl

theorem keys_values (log : List Deposit) :
    Keyed.keys (log.map fun w => (w.key o, w.value)) = log.map (·.key o) := by
  rw [Keyed.keys, List.map_map]
  rfl

theorem mem_keys_comments {key : String} :
    key ∈ Keyed.keys (log.filterMap (comment? o))
      ↔ ∃ w ∈ log, w.key o = key ∧ w.member.rules.comment?.isSome := by
  simp only [Keyed.keys, List.mem_map, List.mem_filterMap, comment?, Option.map_eq_some_iff,
    Option.isSome_iff_exists]
  constructor
  · rintro ⟨p, ⟨w, hw, text, htext, rfl⟩, rfl⟩
    exact ⟨w, hw, rfl, text, htext⟩
  · rintro ⟨w, hw, rfl, text, htext⟩
    exact ⟨_, ⟨w, hw, text, htext, rfl⟩, rfl⟩

/-- Deposits under distinct keys have their comments under distinct keys. -/
theorem distinct_comments (h : (log.map (·.key o)).Nodup) :
    Keyed.Distinct (log.filterMap (comment? o)) := by
  induction log with
  | nil => exact List.nodup_nil
  | cons w rest ih =>
    obtain ⟨hnew, hrest⟩ := List.nodup_cons.mp h
    cases hcomment : w.comment? o with
    | none =>
      rw [List.filterMap_cons_none hcomment]
      exact ih hrest
    | some p =>
      rw [List.filterMap_cons_some hcomment]
      obtain ⟨text, -, rfl⟩ := Option.map_eq_some_iff.mp hcomment
      refine List.nodup_cons.mpr ⟨fun hmem => hnew ?_, ih hrest⟩
      obtain ⟨w', hw', hkey, -⟩ := mem_keys_comments.mp hmem
      exact List.mem_map.mpr ⟨w', hw', hkey⟩

end Deposit

/-- What has become of a tree that deposits were written into. -/
structure Tree.Rewritten (o : Options) (log : List Deposit) (t t' : Tree) : Prop where
  /-- Keys that were there stand where they stood, and behind them the new ones, in the order of the
  deposits. -/
  keys : t'.keys = t.keys ++ (log.map (·.key o)).filter (· ∉ t.keys)
  /-- Under a key that no deposit goes to, nothing has changed. -/
  kept : ∀ key, key ∉ log.map (·.key o) →
    t'.get? key = t.get? key ∧ t'.comment? key = t.comment? key
  /-- Under the key of a deposit there is its value, and its comment if it has one. -/
  written : ∀ w ∈ log, t'.get? (w.key o) = some w.value
    ∧ t'.comment? (w.key o) = w.member.rules.comment?.or (t.comment? (w.key o))

/-- Deposits under distinct keys rewrite a tree. -/
theorem Deposit.rewritten_putAll {o : Options} {log : List Deposit}
    (h : (log.map (·.key o)).Nodup) (t : Tree) :
    Tree.Rewritten o log t (Deposit.putAll o t log) := by
  have hvalues : Keyed.Distinct (log.map fun w => (w.key o, w.value)) := by
    rw [Keyed.Distinct, keys_values]
    exact h
  refine ⟨?_, fun key hkey => ⟨?_, ?_⟩, fun w hw => ⟨?_, ?_⟩⟩
  · rw [Tree.keys, entries_putAll, Keyed.keys_insertAll hvalues, keys_values]
    rfl
  · rw [Tree.get?, entries_putAll]
    exact Keyed.get?_insertAll_of_not_mem (by rwa [keys_values])
  · rw [Tree.comment?, comments_putAll]
    refine Keyed.get?_insertAll_of_not_mem fun hmem => hkey ?_
    obtain ⟨w, hw, hwkey, -⟩ := mem_keys_comments.mp hmem
    exact List.mem_map.mpr ⟨w, hw, hwkey⟩
  · rw [Tree.get?, entries_putAll]
    exact Keyed.get?_insertAll_of_mem hvalues (List.mem_map.mpr ⟨w, hw, rfl⟩)
  · rw [Tree.comment?, comments_putAll]
    cases hcomment : w.member.rules.comment? with
    | some text =>
      refine Keyed.get?_insertAll_of_mem (distinct_comments h) ?_
      exact List.mem_filterMap.mpr ⟨w, hw, Option.map_eq_some_iff.mpr ⟨text, hcomment, rfl⟩⟩
    | none =>
      -- the key has no other deposit whose comment could be there
      refine Keyed.get?_insertAll_of_not_mem fun hmem => ?_
      obtain ⟨w', hw', hkey, hsome⟩ := mem_keys_comments.mp hmem
      obtain rfl := List.inj_on_of_nodup_map h hw' hw hkey
      rw [hcomment] at hsome
      cases hsome

/-! ## Members that fail -/

section Failures

variable {σ : Type} [Store σ] {o : Options} {x : Object} {m : Member Codec} {s s' : σ} {e : Error}

/-- How a member fails to be written into the store `s`, with which error, and what the store is
then, if its failing writes change nothing. -/
inductive Member.WriteFails (m : Member Codec) (o : Options) (x : Object) (s : σ) :
    Error → σ → Prop where
  /-- It cannot be said what to write, so nothing is written. -/
  | member {e : Error} (htoWrite : m.toWrite o x = .error e) : WriteFails m o x s e s
  /-- The entry is refused. -/
  | entry {d : Datum} {v : Value} {e : Error} {s' : σ} (htoWrite : m.toWrite o x = .ok (some (d, v)))
    (hset : Store.set s [m.key o] v = (.error e, s')) : WriteFails m o x s (m.writeError d e) s
  /-- The entry is set, and its comment is refused. -/
  | comment {d : Datum} {v : Value} {text : String} {old : Option Value} {e : Error} {s₁ s₂ : σ}
    (htoWrite : m.toWrite o x = .ok (some (d, v)))
    (hset : Store.set s [m.key o] v = (.ok old, s₁)) (hcomment : m.rules.comment? = some text)
    (hrefused : Store.setComment s₁ [m.key o] text = (.error e, s₂)) :
    WriteFails m o x s (m.writeError d e) s₁

theorem Member.writeFails_of_error (hσ : Store.IsAtomic σ) (h : m.write o x s = (.error e, s')) :
    m.WriteFails o x s e s' := by
  rw [write] at h
  split at h
  · rename_i htoWrite
    cases h
    exact .member htoWrite
  · cases h
  · rename_i d v htoWrite
    rw [store] at h
    split at h
    · rename_i hset
      cases h
      obtain rfl := hσ.set hset
      exact .entry htoWrite hset
    · rename_i s₁ hset
      rw [storeComment] at h
      split at h
      · cases h
      · rename_i text hcomment
        split at h
        · cases hrefused : Store.setComment s₁ [m.key o] text with
          | mk r s₂ =>
            rw [hrefused] at h
            obtain ⟨hr, rfl⟩ := Prod.mk.inj h
            obtain ⟨e', hmap, rfl⟩ := Result.mapError_eq_error.mp hr
            obtain rfl : r = .error e' := Result.map_eq_error.mp hmap
            obtain rfl := hσ.setComment hrefused
            exact .comment htoWrite hset hcomment hrefused
        · cases h

/-- Where nothing is refused, a member only fails before anything is written. -/
theorem Member.toWrite_of_error (hσ : Store.TakesKeys σ) (h : m.write o x s = (.error e, s')) :
    m.toWrite o x = .error e ∧ s' = s := by
  cases writeFails_of_error hσ.isAtomic h with
  | member htoWrite => exact ⟨htoWrite, rfl⟩
  | entry _ hset => exact absurd hset hσ.set
  | comment _ _ _ hrefused => exact absurd hrefused hσ.setComment

end Failures

/-! ## Runs -/

namespace Schema

variable {schema : Schema Codec} {o : Options} {x : Object}

/-- Deposits are made in the order of the members. -/
theorem deposits_sublist : ((schema.deposits o x).map (·.member)).Sublist schema.members := by
  have hmembers : ∀ ms : List (Member Codec), ((depositsOf o x ms).map (·.member)).Sublist ms := by
    intro ms
    induction ms with
    | nil => exact .slnil
    | cons m rest ih =>
      cases hdeposit : m.deposit? o x with
      | none =>
        rw [depositsOf_cons_none hdeposit]
        exact ih.cons m
      | some w =>
        obtain ⟨rfl, -⟩ := Member.deposit?_eq_some.mp hdeposit
        rw [depositsOf_cons_some hdeposit]
        exact ih.cons_cons w.member
  exact (hmembers _).trans List.filter_sublist

/-- Members with distinct keys make their deposits under distinct keys. -/
theorem nodup_deposits (hkeys : (schema.members.map (·.key o)).Nodup) :
    ((schema.deposits o x).map (·.key o)).Nodup := by
  have hsublist : (((schema.deposits o x).map (·.member)).map (·.key o)).Sublist
      (schema.members.map (·.key o)) := deposits_sublist.map _
  rw [List.map_map] at hsublist
  exact hkeys.sublist hsublist

section Written

variable {t t' : Tree} {m : Member Codec}

/-- The entry of a member that is written is its value. -/
theorem get?_of_written (hkeys : (schema.members.map (·.key o)).Nodup)
    (h : schema.write o x t = (.ok (), t')) (hm : m ∈ schema.members)
    (hincluded : o.includes m = true) {d : Datum} {v : Value}
    (htoWrite : m.toWrite o x = .ok (some (d, v))) : t'.get? (m.key o) = some v := by
  rw [write_eq_putAll h]
  have hdeposit : ⟨m, d, v⟩ ∈ schema.deposits o x := mem_deposits.mpr ⟨hm, hincluded, htoWrite⟩
  exact ((Deposit.rewritten_putAll (nodup_deposits hkeys) t).written _ hdeposit).1

/-- The entry of a member that has nothing to write is as before. -/
theorem get?_of_not_written (hkeys : (schema.members.map (·.key o)).Nodup)
    (h : schema.write o x t = (.ok (), t')) (hm : m ∈ schema.members)
    (htoWrite : m.toWrite o x = .ok none) : t'.get? (m.key o) = t.get? (m.key o) := by
  have hkey : m.key o ∉ (schema.deposits o x).map (·.key o) := by
    intro hmem
    obtain ⟨w, hw, hwkey⟩ := List.mem_map.mp hmem
    obtain ⟨hwm, -, hwtoWrite⟩ := mem_deposits.mp hw
    obtain rfl := List.inj_on_of_nodup_map hkeys hwm hm hwkey
    rw [htoWrite] at hwtoWrite
    cases hwtoWrite
  rw [write_eq_putAll h]
  exact ((Deposit.rewritten_putAll (nodup_deposits hkeys) t).kept _ hkey).1

end Written

/-- Where nothing is refused, a run that fails leaves what the members before the failing one
leave. -/
theorem writesUpTo_of_takesKeys {σ : Type} [Store σ] (hσ : Store.TakesKeys σ) {s s' : σ}
    {e : Error} (h : schema.write o x s = (.error e, s')) :
    ∃ before m after, schema.WritesUpTo o x s before m after s' ∧ m.toWrite o x = .error e := by
  obtain ⟨before, m, after, s₁, hupTo, hm⟩ := writesUpTo_of_error h
  obtain ⟨htoWrite, rfl⟩ := Member.toWrite_of_error hσ hm
  exact ⟨before, m, after, hupTo, htoWrite⟩

/-- Where nothing is refused, a run succeeds if it can be said of each member what to write. -/
theorem exists_write_of_toWrite {σ : Type} [Store σ] (hσ : Store.TakesKeys σ) (s : σ)
    (h : ∀ m ∈ schema.members, ∃ r, m.toWrite o x = .ok r) :
    ∃ s', schema.write o x s = (.ok (), s') := by
  cases hrun : schema.write o x s with
  | mk r s' =>
    cases r with
    | ok _ => exact ⟨s', rfl⟩
    | error e =>
      obtain ⟨before, m, after, hupTo, herror⟩ := writesUpTo_of_takesKeys hσ hrun
      have hm : m ∈ schema.members := by
        rw [hupTo.members]
        exact List.mem_append_right _ List.mem_cons_self
      obtain ⟨r, hok⟩ := h m hm
      rw [hok] at herror
      cases herror

/-- A member that fails makes the run fail. -/
theorem exists_toWrite_of_writeMembers {σ : Type} [Store σ] {s s' : σ}
    {ms : List (Member Codec)} (h : writeMembers o x ms s = (.ok (), s')) : ∀ m ∈ ms, ∃ r, m.toWrite o x = .ok r := by
  induction ms generalizing s with
  | nil => exact nofun
  | cons m rest ih =>
    rw [writeMembers] at h
    split at h
    · cases h
    · rename_i hm
      refine List.forall_mem_cons.mpr ⟨?_, ih h⟩
      cases htoWrite : m.toWrite o x with
      | ok r => exact ⟨r, rfl⟩
      | error e =>
        rw [Member.write, htoWrite] at hm
        cases hm

/-- An object is written as a tree if it can be said of each member that takes part what to write,
and the tree is what their deposits make of a fresh one. -/
theorem toTree_eq_ok {t : Tree} : schema.toTree o x = .ok t
    ↔ (∀ m ∈ schema.members.filter o.includes, ∃ r, m.toWrite o x = .ok r)
      ∧ t = Deposit.putAll o Tree.empty (schema.deposits o x) := by
  rw [toTree]
  cases hrun : schema.write o x Tree.empty with
  | mk r t' =>
    cases r with
    | ok _ =>
      rw [← write_eq_putAll hrun]
      exact ⟨fun h => ⟨exists_toWrite_of_writeMembers hrun, (Except.ok.inj h).symm⟩,
        fun h => congrArg Except.ok h.2.symm⟩
    | error e =>
      refine ⟨nofun, fun ⟨htoWrite, _⟩ => ?_⟩
      obtain ⟨before, m, after, hupTo, herror⟩ := writesUpTo_of_takesKeys Tree.takesKeys hrun
      have hm : m ∈ schema.members.filter o.includes := by
        rw [List.mem_filter, hupTo.members]
        exact ⟨List.mem_append_right _ List.mem_cons_self, hupTo.included⟩
      obtain ⟨r, hr⟩ := htoWrite m hm
      rw [hr] at herror
      cases herror

/-- What writing an object changes in a tree, and what it leaves behind in a store when it fails. -/
structure WriteFramed (schema : Schema Codec) (o : Options) (x : Object) : Prop where
  /-- Deposits are made in the order of the members. -/
  order : ((schema.deposits o x).map (·.member)).Sublist schema.members
  /-- A run that succeeds writes the deposits into the tree, and changes nothing else. -/
  rewritten : ∀ t t' : Tree, schema.write o x t = (.ok (), t') →
    Tree.Rewritten o (schema.deposits o x) t t'
  /-- A tree is exactly what the members before the failing one leave. -/
  failedOnTree : ∀ (t t' : Tree) (e : Error), schema.write o x t = (.error e, t') →
    ∃ before m after, schema.WritesUpTo o x t before m after t' ∧ m.toWrite o x = .error e
  /-- So is a store with sorted keys. -/
  failedOnSortedTree : ∀ (t t' : SortedTree) (e : Error), schema.write o x t = (.error e, t') →
    ∃ before m after, schema.WritesUpTo o x t before m after t' ∧ m.toWrite o x = .error e
  /-- In any store whose failing writes change nothing, the failing member fails in one of the ways
  of `Member.WriteFails`, starting from what the members before it leave. -/
  failed : ∀ (σ : Type) [Store σ], Store.IsAtomic σ → ∀ (s s' : σ) (e : Error),
    schema.write o x s = (.error e, s') →
    ∃ before m after s₁, schema.WritesUpTo o x s before m after s₁ ∧ m.WriteFails o x s₁ e s'

/-- Under distinct keys, writing an object changes only what it writes, keeps the order of the keys
that are there and appends new ones in the order of the members. If it fails, the store is what the
members before the failing one leave, except that a refused comment leaves its entry set. -/
theorem write_framed (o : Options) (hkeys : (schema.members.map (·.key o)).Nodup) (x : Object) :
    schema.WriteFramed o x := by
  refine ⟨deposits_sublist, ?_, ?_, ?_, ?_⟩
  · intro t t' h
    rw [write_eq_putAll h]
    exact Deposit.rewritten_putAll (nodup_deposits hkeys) t
  · exact fun t t' e h => writesUpTo_of_takesKeys Tree.takesKeys h
  · exact fun t t' e h => writesUpTo_of_takesKeys SortedTree.takesKeys h
  · intro σ _ hσ s s' e h
    obtain ⟨before, m, after, s₁, hupTo, hm⟩ := writesUpTo_of_error h
    exact ⟨before, m, after, s₁, hupTo, Member.writeFails_of_error hσ hm⟩

end Schema

namespace Example

/-- A tree with a comment, an entry of its own, and a host. -/
def commentedTree : Tree :=
  ⟨[("port", .number (.integer 80)), ("zone", .string "eu"), ("host", .string "old")],
    [("zone", "Where it runs"), ("host", "Its machine")]⟩

theorem gatewaySchema_keys : (gatewaySchema.members.map (·.key {})).Nodup := by decide

/-- The tree behind a guard that refuses a comment for the name. -/
def guardedTree : GuardedTree := ⟨commentedTree, [], ["name"]⟩

/-- The port and the host stay where they are, the zone is not touched, the name comes with its
comment, and the token, which is transient, is left out. Where the comment is refused, the name is
there without it, and nothing behind it has been written. -/
theorem write_framed_gateway :
    gatewaySchema.write {} (gateway "edge" "new" 8080) commentedTree
        = (.ok (), ⟨[("port", .number (.integer 8080)), ("zone", .string "eu"),
          ("host", .string "new"), ("name", .string "edge"), ("note", .string "kept"),
          ("weight", .number (.integer 1))],
          [("zone", "Where it runs"), ("host", "Its machine"), ("name", "Shown to users")]⟩)
      ∧ (∃ e, gatewaySchema.write {} (gateway "edge" "new" 8080) guardedTree
          = (.error e, { guardedTree with tree := commentedTree.insert "name" (.string "edge") })
        ∧ ∃ before m after s₁,
          gatewaySchema.WritesUpTo {} (gateway "edge" "new" 8080) guardedTree before m after s₁
          ∧ m.WriteFails {} (gateway "edge" "new" 8080) s₁ e
            { guardedTree with tree := commentedTree.insert "name" (.string "edge") })
      ∧ gatewaySchema.WriteFramed {} (gateway "edge" "new" 8080) := by
  have hframed := Schema.write_framed {} gatewaySchema_keys (gateway "edge" "new" 8080)
  exact ⟨rfl, ⟨_, rfl, hframed.failed GuardedTree GuardedTree.isAtomic _ _ _ rfl⟩, hframed⟩

end Example

end ConfigBinding
