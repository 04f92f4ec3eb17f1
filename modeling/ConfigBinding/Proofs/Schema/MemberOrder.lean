import ConfigBinding.Proofs.Schema.TwoRuns
import ConfigBinding.Proofs.Schema.WriteFrame

/-!
# The order of members

Members that are apart from each other and have keys of their own do not get in each other's way, as
long as their rules do not look at the object. What a member is to become is then the same wherever
it stands in the run, and two members may be given their data in either order, so runs over the same
members in another order end with the same object (`readMembersOver_perm`). What members put into a
fresh tree are the same deposits in another order.

Which of several members that fail comes first does depend on the order, and with it the error.
-/

namespace ConfigBinding

/-! ## Rules that do not look at the object -/

/-- The check can only find the closure of a companion, which is not given the object: it has none
of its own, and there is none of its name and of the right shape in the table of the type. -/
def Check.IsShared {α : Type} (own : Closure → Option α) (table : RuleTable) : Check α → Prop
  | .inline _ => False
  | .named name _ => table.find? name own = none
  | .unset => True

theorem Check.IsShared.exists_of_resolve {α : Type} {scope : Scope} {role : RuleRole}
    {own shared : Closure → Option α} {check : Check α} (h : check.IsShared own scope.table) {f : α}
    (hresolve : scope.resolve role own shared check = .ok f) :
    ∃ closure, shared closure = some f := by
  cases check with
  | inline closure => cases h
  | unset => cases hresolve
  | named name companion =>
    rw [Scope.resolve, show scope.table.find? name own = none from h] at hresolve
    dsimp only at hresolve
    split at hresolve
    · rename_i closure hfind
      obtain ⟨c, -, hc⟩ := Option.bind_eq_some_iff.mp hfind
      obtain ⟨thing, -, hthing⟩ := List.exists_of_findSome?_eq_some hc
      exact ⟨thing, hthing.trans (congrArg some (Except.ok.inj hresolve))⟩
    · cases hresolve

namespace Closure

variable {c : Closure} {x y : Object} {typeName : String}

theorem sharedSkip?_ignores {skips : SkipPredicate} (h : c.sharedSkip? = some skips) :
    skips x = skips y := by
  cases c with
  | sharedSkip p =>
    obtain rfl := Option.some.inj h
    rfl
  | _ => cases h

theorem sharedAssertion?_ignores {accepts : Assertion}
    (h : c.sharedAssertion? typeName = some accepts) : accepts x = accepts y := by
  cases c with
  | sharedAssertion name p =>
    rw [sharedAssertion?] at h
    split at h <;> cases h
    rfl
  | _ => cases h

theorem sharedProvider?_ignores {provide : Provider}
    (h : c.sharedProvider? typeName = some provide) : provide x = provide y := by
  cases c with
  | sharedProvider name d =>
    rw [sharedProvider?] at h
    split at h <;> cases h
    rfl
  | _ => cases h

end Closure

/-- No rule that is asked when the member is read looks at the object: the conditions are built-in
ones, and the closures those of companions. -/
structure Member.IgnoresObject (m : Member Codec) : Prop where
  skips : ∀ check, .custom check ∈ m.rules.skipRules .reading →
    check.IsShared Closure.skip? m.table
  defaults : ∀ rule ∈ m.rules.defaults,
    rule.provider.IsShared (Closure.provider? m.type.name) m.table
  asserts : ∀ check, .custom check ∈ m.rules.asserts →
    check.IsShared (Closure.assertion? m.type.name) m.table

theorem Member.IgnoresObject.readsBlindly {m : Member Codec} (h : m.IgnoresObject) (x y : Object) :
    m.ReadsBlindly x y where
  skips check hcheck _ hresolve := by
    obtain ⟨_, hshared⟩ := (h.skips check hcheck).exists_of_resolve hresolve
    exact Closure.sharedSkip?_ignores hshared
  defaults rule hrule _ hresolve := by
    obtain ⟨_, hshared⟩ := (h.defaults rule hrule).exists_of_resolve hresolve
    exact Closure.sharedProvider?_ignores hshared
  asserts check hcheck _ hresolve := by
    obtain ⟨_, hshared⟩ := (h.asserts check hcheck).exists_of_resolve hresolve
    exact Closure.sharedAssertion?_ignores hshared

/-! ## Reading in another order -/

/-- The object with what the member is to become. -/
def Member.become {τ : Type} (m : Member τ) (x : Object) : Option Datum → Object
  | none => x
  | some d => m.set x d

/-- The object that members are read into, if none of them fails. -/
def readMembersOver {σ : Type} [Store σ] (o : Options) (source : σ) (ms : List (Member Codec))
    (x : Object) : Result Object :=
  (readMembers o source ms x).1.map fun _ => (readMembers o source ms x).2

section Reading

variable {σ : Type} [Store σ] {o : Options} {source : σ} {m : Member Codec}
  {ms ms' : List (Member Codec)} {x y : Object}

theorem readMembersOver_cons :
    readMembersOver o source (m :: ms) x
      = m.toRead o source x >>= fun d => readMembersOver o source ms (m.become x d) := by
  rw [readMembersOver, readMembers, Member.read]
  cases m.toRead o source x with
  | error e => rfl
  | ok d => cases d <;> rfl

/-- What the member is to become is the same in every object. -/
theorem Member.IgnoresObject.toRead_eq (h : m.IgnoresObject) (x y : Object) :
    (m.toRead o source x).toOption = (m.toRead o source y).toOption :=
  (Member.toRead_rel (L := .agreement) (h.readsBlindly x y) o source).toOption_eq

theorem Member.at?_become_of_apart {m' : Member Codec} (h : m.Apart m') (d : Option Datum) :
    (m.become x d).at? m'.path m'.slot = x.at? m'.path m'.slot := by
  cases d with
  | none => rfl
  | some d => exact Member.at?_set_of_avoids h x d

theorem Member.become_comm {m' : Member Codec} (h : m.Apart m')
    (hx : (x.at? m.path m.slot).isSome) (hx' : (x.at? m'.path m'.slot).isSome)
    (d e : Option Datum) : m'.become (m.become x d) e = m.become (m'.become x e) d := by
  cases d with
  | none => rfl
  | some d =>
    cases e with
    | none => rfl
    | some e => exact Member.set_comm h hx hx' d e

/-- Reading members in another order ends with the same object, or fails as well. -/
theorem readMembersOver_perm (hperm : ms.Perm ms') (hapart : ms.Pairwise Member.Apart)
    (hrules : ∀ m ∈ ms, m.IgnoresObject) (hslots : ∀ m ∈ ms, (x.at? m.path m.slot).isSome) :
    (readMembersOver o source ms x).toOption = (readMembersOver o source ms' x).toOption := by
  induction hperm generalizing x with
  | nil => rfl
  | cons m _ ih =>
    obtain ⟨hm, hapart⟩ := List.pairwise_cons.mp hapart
    obtain ⟨-, hrules⟩ := List.forall_mem_cons.mp hrules
    obtain ⟨-, hslots⟩ := List.forall_mem_cons.mp hslots
    rw [readMembersOver_cons, readMembersOver_cons, Result.toOption_bind, Result.toOption_bind]
    congr 1
    funext d
    -- what the others find in their places has not changed
    refine ih hapart hrules fun m' hm' => ?_
    rw [Member.at?_become_of_apart (hm m' hm')]
    exact hslots m' hm'
  | swap m m' rest =>
    obtain ⟨hm', -⟩ := List.pairwise_cons.mp hapart
    have hapart : m'.Apart m := hm' m List.mem_cons_self
    obtain ⟨hrule', hrules⟩ := List.forall_mem_cons.mp hrules
    have hrule : m.IgnoresObject := hrules m List.mem_cons_self
    obtain ⟨hslot', hslots⟩ := List.forall_mem_cons.mp hslots
    have hslot := hslots m List.mem_cons_self
    simp only [readMembersOver_cons, Result.toOption_bind]
    -- neither of the two sees what the other one has become
    simp only [hrule.toRead_eq (m'.become x _) x, hrule'.toRead_eq (m.become x _) x,
      Member.become_comm hapart hslot' hslot]
    exact Option.bind_comm _ _
  | trans h _ ih ih' =>
    have hsymm : ∀ {m m' : Member Codec}, m.Apart m' → m'.Apart m := fun h => h.symm
    rw [ih hapart hrules hslots]
    exact ih' ((h.pairwise_iff hsymm).mp hapart) (fun m hm => hrules m (h.mem_iff.mpr hm))
      fun m hm => hslots m (h.mem_iff.mpr hm)

end Reading

/-! ## Writing in another order -/

/-- The entries of a tree, with their comments. -/
def Tree.commented (t : Tree) : List (String × Value × Option String) :=
  t.entries.map fun p => (p.1, p.2, t.comment? p.1)

/-- The same entries with the same comments, in whatever order. -/
structure Tree.SameContent (t t' : Tree) : Prop where
  entries : t.commented.Perm t'.commented
  comments : t.comments.Perm t'.comments

/-- The same deposits under distinct keys give a fresh tree the same content. -/
theorem Deposit.sameContent_putAll {o : Options} {log log' : List Deposit}
    (hperm : log.Perm log') (hkeys : (log.map (·.key o)).Nodup) :
    Tree.SameContent (putAll o Tree.empty log) (putAll o Tree.empty log') := by
  have hentries : ∀ {log : List Deposit}, (log.map (·.key o)).Nodup →
      (putAll o Tree.empty log).entries = log.map fun w => (w.key o, w.value) := by
    intro log hkeys
    rw [entries_putAll]
    refine Keyed.insertAll_eq_append ?_
    rwa [Keyed.Distinct, Tree.empty, List.nil_append, keys_values]
  have hcomments : ∀ {log : List Deposit}, (log.map (·.key o)).Nodup →
      (putAll o Tree.empty log).comments = log.filterMap (comment? o) := by
    intro log hkeys
    rw [comments_putAll]
    exact Keyed.insertAll_eq_append (distinct_comments hkeys)
  have hkeys' := ((hperm.map (·.key o)).nodup_iff).mp hkeys
  have hcommentsPerm :
      (putAll o Tree.empty log).comments.Perm (putAll o Tree.empty log').comments := by
    rw [hcomments hkeys, hcomments hkeys']
    exact hperm.filterMap _
  refine ⟨?_, hcommentsPerm⟩
  have hcomment : ∀ key, (putAll o Tree.empty log).comment? key
      = (putAll o Tree.empty log').comment? key := by
    refine Keyed.get?_perm ?_ hcommentsPerm
    rw [hcomments hkeys]
    exact distinct_comments hkeys
  simp only [Tree.commented, hcomment, hentries hkeys, hentries hkeys']
  exact (hperm.map _).map _

namespace Schema

variable {schema : Schema Codec} {o : Options} {x : Object} {ms : List (Member Codec)} {t : Tree}

/-- Writing in another order gives a tree of the same content, or fails as well. -/
theorem toTree_perm (hperm : schema.members.Perm ms)
    (hkeys : (schema.members.map (·.key o)).Nodup) :
    Option.Rel Tree.SameContent (schema.toTree o x).toOption
      ((schema.withMembers ms).toTree o x).toOption := by
  have hfilter : (schema.members.filter o.includes).Perm (ms.filter o.includes) := hperm.filter _
  have hdeposits : (schema.deposits o x).Perm ((schema.withMembers ms).deposits o x) :=
    hfilter.filterMap _
  cases hrun : schema.toTree o x with
  | ok t =>
    obtain ⟨htoWrite, rfl⟩ := toTree_eq_ok.mp hrun
    have hrun' : (schema.withMembers ms).toTree o x
        = .ok (Deposit.putAll o Tree.empty ((schema.withMembers ms).deposits o x)) :=
      toTree_eq_ok.mpr ⟨fun m hm => htoWrite m (hfilter.mem_iff.mpr hm), rfl⟩
    rw [hrun']
    exact .some (Deposit.sameContent_putAll hdeposits (nodup_deposits hkeys))
  | error e =>
    cases hrun' : (schema.withMembers ms).toTree o x with
    | error e' => exact .none
    | ok t' =>
      obtain ⟨htoWrite, -⟩ := toTree_eq_ok.mp hrun'
      rw [toTree_eq_ok.mpr ⟨fun m hm => htoWrite m (hfilter.mem_iff.mp hm), rfl⟩] at hrun
      cases hrun

/-- The order of members that are apart from each other, have distinct keys, and whose rules do not
look at the object, does not decide the outcome. Reading them into an object that has their slots
fails in both orders, or succeeds in both with the same object; writing them into a fresh tree fails
in both, or succeeds in both with the same entries and comments. -/
theorem order_irrelevant (hperm : schema.members.Perm ms)
    (hapart : schema.members.Pairwise Member.Apart)
    (hkeys : (schema.members.map (·.key o)).Nodup)
    (hrules : ∀ m ∈ schema.members, m.IgnoresObject) :
    (∀ {σ : Type} [Store σ] (source : σ) (y : Object),
      (∀ m ∈ schema.members, (y.at? m.path m.slot).isSome) →
      (schema.readOver o source y).toOption
        = ((schema.withMembers ms).readOver o source y).toOption)
    ∧ ∀ x, Option.Rel Tree.SameContent (schema.toTree o x).toOption
      ((schema.withMembers ms).toTree o x).toOption := by
  refine ⟨fun source y hslots => ?_, fun x => toTree_perm hperm hkeys⟩
  have hmem : ∀ m ∈ schema.members.filter o.includes, m ∈ schema.members := fun m hm =>
    (List.mem_filter.mp hm).1
  exact readMembersOver_perm (hperm.filter o.includes) (hapart.filter _)
    (fun m hm => hrules m (hmem m hm)) fun m hm => hslots m (hmem m hm)

end Schema

/-! ## Mailboxes

A mailbox is built on its owner. A companion checks its address, and gives its quota when there is
none. Its alias is left alone when there is none, and its session is transient.
-/

namespace Example

/-- The companion with the rules of mailboxes. -/
def mailRules : Companion where
  name := "MailRules"
  table := ⟨"MailRules",
    [("address", .sharedAssertion "String" (DatumCondition.shared (.minLength 3))),
      ("quota", .sharedProvider "u16" (.integer 100))]⟩

/-- The type of owners. -/
def ownerType : ObjectType MemberType where
  name := "Owner"
  slots := [⟨"fullName", .string, .string ""⟩]
  schema := ((SchemaBuilder.start "Owner").field "fullName" "fullName" .string
    (MemberRules.add {} (.comment "As in the directory"))).build

/-- The type of mailboxes. -/
def mailboxType : ObjectType MemberType where
  name := "Mailbox"
  slots := [⟨"owner", .object "Owner", .object ownerType.fresh⟩,
    ⟨"address", .string, .string ""⟩, ⟨"quota", .integer .u16, .integer 0⟩,
    ⟨"alias", .option .string, .nothing⟩, ⟨"session", .string, .string ""⟩]
  schema := (((((SchemaBuilder.start "Mailbox").field "address" "address" .string
    (MemberRules.add {} (.assert (.custom (.named "address" (some mailRules)))))).field "quota"
    "quota" (.integer .u16) (MemberRules.add {} (.default ⟨.named "quota" (some mailRules),
      [.isMissing]⟩))).field "alias" "alias" (.option .string)
    (MemberRules.add {} (.skip none .isNull))).field "session" "session" .string
    (MemberRules.markTransient {})).embed "owner" ownerType.schema |>.build

/-- The schema of mailboxes. -/
def mailboxSchema : Schema Codec :=
  (TypeTable.compile { types := [ownerType, mailboxType] } mailboxType).schema

/-- A mailbox without an alias. -/
def mailbox (fullName address : String) (quota : Int) : Object :=
  ⟨"Mailbox", [("owner", .object ⟨"Owner", [("fullName", .string fullName)]⟩),
    ("address", .string address), ("quota", .integer quota), ("alias", .nothing),
    ("session", .string "open")]⟩

theorem mailboxSchema_ignoresObject : ∀ m ∈ mailboxSchema.members, m.IgnoresObject := by
  show ∀ m ∈ [_, _, _, _, _], _
  simp only [List.forall_mem_cons]
  refine ⟨⟨nofun, nofun, ?_⟩, ⟨nofun, ?_, nofun⟩, ⟨?_, nofun, nofun⟩, ⟨nofun, nofun, nofun⟩,
    ⟨nofun, nofun, nofun⟩, nofun⟩
  · rintro _ (_ | ⟨_, ⟨⟩⟩)
    rfl
  · rintro _ (_ | ⟨_, ⟨⟩⟩)
    rfl
  · rintro _ (_ | ⟨_, ⟨⟩⟩)

/-- A tree without a quota and an alias. -/
def mailTree : Tree := .ofPairs [("fullName", .string "Ann Lee"), ("address", .string "ann@lee")]

/-- A mailbox is read and written alike from the first member to the last and from the last to the
first; only the order of the entries differs. -/
theorem order_irrelevant_mailbox :
    mailboxSchema.readOver {} mailTree (mailbox "" "" 0) = .ok (mailbox "Ann Lee" "ann@lee" 100)
      ∧ ((mailboxSchema.withMembers mailboxSchema.members.reverse).readOver {} mailTree
        (mailbox "" "" 0)).toOption = some (mailbox "Ann Lee" "ann@lee" 100)
      ∧ mailboxSchema.toTree {} (mailbox "Ann Lee" "ann@lee" 7)
        = .ok ⟨[("address", .string "ann@lee"), ("quota", .number (.integer 7)),
          ("fullName", .string "Ann Lee")], [("fullName", "As in the directory")]⟩
      ∧ Option.Rel Tree.SameContent
        (mailboxSchema.toTree {} (mailbox "Ann Lee" "ann@lee" 7)).toOption
        ((mailboxSchema.withMembers mailboxSchema.members.reverse).toTree {}
          (mailbox "Ann Lee" "ann@lee" 7)).toOption := by
  obtain ⟨hread, hwrite⟩ := Schema.order_irrelevant (o := {}) (List.reverse_perm _).symm
    (by decide : mailboxSchema.members.Pairwise Member.Apart)
    (by decide : (mailboxSchema.members.map (·.key {})).Nodup) mailboxSchema_ignoresObject
  exact ⟨rfl, (hread _ _ (by decide)).symm.trans rfl, rfl, hwrite _⟩

end Example

end ConfigBinding
