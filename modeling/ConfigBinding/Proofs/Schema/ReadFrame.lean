import ConfigBinding.Proofs.Object.Place
import ConfigBinding.Proofs.Schema.Run
import ConfigBinding.Rule.Condition

/-!
# What reading leaves alone

Reading a member changes at most the place of that member. So when no two members share a place, the
place of a member is as at first until the run comes to the member, and afterwards as the member has
left it (`Schema.ReadsUpTo.at?_eq`, `Schema.ReadsUpTo.at?_read`). From this it follows what a whole
run leaves alone, and what it leaves behind when it fails (`Schema.read_framed`).
-/

namespace ConfigBinding

variable {σ : Type} [Store σ] {o : Options} {source : σ} {path : List String} {slot : String}

namespace Member

variable {m : Member Codec} {x : Object}

theorem Apart.symm {τ υ : Type} {m : Member τ} {m' : Member υ} (h : m.Apart m') : m'.Apart m :=
  ⟨h.2, h.1⟩

/-- A member that is read changes no slot that it avoids. -/
theorem at?_read_of_avoids (h : m.Avoids path slot) :
    (m.read o source x).2.at? path slot = x.at? path slot := by
  rw [read]
  split
  · rfl
  · rfl
  · exact at?_set_of_avoids h x _

/-- A member that is read holds what it is to become, unless nothing has changed. -/
theorem at?_read_self (m : Member Codec) (o : Options) (source : σ) (x : Object) :
    (m.read o source x).2 = x
      ∨ ∃ d, m.toRead o source x = .ok (some d)
        ∧ (m.read o source x).2.at? m.path m.slot = some d := by
  rw [read]
  split
  · exact .inl rfl
  · exact .inl rfl
  · rename_i d htoRead
    rcases Object.at?_updatePart_self (x := x) m.path m.slot d with h | h
    · exact .inr ⟨d, htoRead, h⟩
    · exact .inl h

end Member

/-- A run changes no slot that all of its members avoid. -/
theorem at?_readMembers_of_avoids {ms : List (Member Codec)} {x : Object}
    (h : ∀ m ∈ ms, m.Avoids path slot) :
    (readMembers o source ms x).2.at? path slot = x.at? path slot := by
  induction ms generalizing x with
  | nil => rfl
  | cons m rest ih =>
    obtain ⟨hhead, hrest⟩ := List.forall_mem_cons.mp h
    have hm : (m.read o source x).2.at? path slot = x.at? path slot :=
      Member.at?_read_of_avoids hhead
    rw [readMembers]
    split
    · rename_i heq
      rw [heq] at hm
      exact hm
    · rename_i heq
      rw [heq] at hm
      exact (ih hrest).trans hm

/-- In a list of members that are apart from each other, all others are apart from each one. -/
theorem apart_of_pairwise {τ : Type} {before after : List (Member τ)} {m : Member τ}
    (h : (before ++ m :: after).Pairwise Member.Apart) :
    (∀ m' ∈ before, m'.Apart m) ∧ ∀ m' ∈ after, m'.Apart m := by
  obtain ⟨-, hback, hcross⟩ := List.pairwise_append.mp h
  exact ⟨fun m' hm' => hcross m' hm' m List.mem_cons_self,
    fun m' hm' => ((List.pairwise_cons.mp hback).1 m' hm').symm⟩

namespace Schema

variable {schema : Schema Codec} {x y : Object} {before after : List (Member Codec)}
  {m : Member Codec}

/-- Reading changes no slot that all members avoid which take part. -/
theorem at?_read_of_avoids
    (h : ∀ m ∈ schema.members, o.includes m = true → m.Avoids path slot) :
    (schema.read o source x).2.at? path slot = x.at? path slot :=
  at?_readMembers_of_avoids fun m hm => h m (List.mem_filter.mp hm).1 (List.mem_filter.mp hm).2

/-- When the run comes to a member, the slots that all members before it avoid are as at first. -/
theorem ReadsUpTo.at?_eq_of_avoids (h : schema.ReadsUpTo o source x before m after y)
    (havoids : ∀ m' ∈ before, m'.Avoids path slot) : y.at? path slot = x.at? path slot := by
  have hframe : ((schema.withMembers before).read o source x).2.at? path slot
      = x.at? path slot :=
    at?_read_of_avoids fun m' hm' _ => havoids m' hm'
  rwa [h.run] at hframe

/-- When the run comes to a member, its place is as at first. -/
theorem ReadsUpTo.at?_eq (hapart : schema.members.Pairwise Member.Apart)
    (h : schema.ReadsUpTo o source x before m after y) :
    y.at? m.path m.slot = x.at? m.path m.slot := by
  rw [h.members] at hapart
  exact h.at?_eq_of_avoids (apart_of_pairwise hapart).1

/-- At the end of the run, the place of a member is as the member has left it. -/
theorem ReadsUpTo.at?_read (hapart : schema.members.Pairwise Member.Apart)
    (h : schema.ReadsUpTo o source x before m after y) :
    (schema.read o source x).2.at? m.path m.slot
      = (m.read o source y).2.at? m.path m.slot := by
  rw [h.members] at hapart
  have hafter : ∀ x' : Object, (readMembers o source (after.filter o.includes) x').2.at? m.path
      m.slot = x'.at? m.path m.slot := fun x' =>
    at?_readMembers_of_avoids fun m' hm' =>
      (apart_of_pairwise hapart).2 m' (List.mem_filter.mp hm').1
  have hrun : readMembers o source (before.filter o.includes) x = (.ok (), y) := h.run
  rw [Schema.read, h.members, List.filter_append, List.filter_cons_of_pos h.included,
    readMembers_append, hrun]
  dsimp only
  rw [readMembers]
  split
  · rename_i heq
    rw [heq]
  · rename_i heq
    rw [hafter, heq]

/-- The place of a member that does not take part is as at first. -/
theorem at?_read_of_not_included (hapart : schema.members.Pairwise Member.Apart)
    (hm : m ∈ schema.members) (hexcluded : o.includes m = false) :
    (schema.read o source x).2.at? m.path m.slot = x.at? m.path m.slot := by
  obtain ⟨before, after, hmembers⟩ := List.append_of_mem hm
  rw [hmembers] at hapart
  obtain ⟨hbefore, hafter⟩ := apart_of_pairwise hapart
  refine at?_read_of_avoids fun m' hm' hincluded => ?_
  rw [hmembers, List.mem_append, List.mem_cons] at hm'
  rcases hm' with hm' | rfl | hm'
  · exact hbefore m' hm'
  · rw [hexcluded] at hincluded
    cases hincluded
  · exact hafter m' hm'

/-- The place of a member is as at first, or the run has come to the member. -/
theorem at?_read_or_readsUpTo (hapart : schema.members.Pairwise Member.Apart) (o : Options)
    (source : σ) (x : Object) (hm : m ∈ schema.members) :
    (schema.read o source x).2.at? m.path m.slot = x.at? m.path m.slot
      ∨ ∃ before after y, schema.ReadsUpTo o source x before m after y := by
  cases hincluded : o.includes m with
  | false => exact .inl (at?_read_of_not_included hapart hm hincluded)
  | true =>
    obtain ⟨before, after, hmembers⟩ := List.append_of_mem hm
    rw [hmembers] at hapart
    have hframe : ((schema.withMembers before).read o source x).2.at? m.path m.slot
        = x.at? m.path m.slot :=
      at?_read_of_avoids fun m' hm' _ => (apart_of_pairwise hapart).1 m' hm'
    cases hrun : (schema.withMembers before).read o source x with
    | mk r y =>
      cases r with
      | ok _ => exact .inr ⟨before, after, y, hmembers, hincluded, hrun⟩
      | error e =>
        -- the run has stopped before it came to the member
        have hstopped : readMembers o source (before.filter o.includes) x = (.error e, y) := hrun
        rw [hrun] at hframe
        refine .inl ?_
        rw [Schema.read, hmembers, List.filter_append, readMembers_append, hstopped]
        exact hframe

/-- What a run that reads into `x` and ends with `r` and `x'` leaves alone, and what it leaves
behind when it fails. -/
structure ReadFramed (schema : Schema Codec) (o : Options) (source : σ) (x : Object)
    (r : Result Unit) (x' : Object) : Prop where
  /-- Slots that no member stands for. -/
  unreached : ∀ path slot, (∀ m ∈ schema.members, m.Avoids path slot) →
    x'.at? path slot = x.at? path slot
  /-- Slots of transient members, where those are left out. -/
  transient : o.skipsTransient = true → ∀ m ∈ schema.members, m.rules.isTransient = true →
    x'.at? m.path m.slot = x.at? m.path m.slot
  /-- Slots of members that are skipped when the run comes to them. -/
  skipped : ∀ before m after y, schema.ReadsUpTo o source x before m after y →
    m.skipsReading o source y = .ok true → x'.at? m.path m.slot = x.at? m.path m.slot
  /-- The object is what the members before the one that fails have made of it, and the slots of
  this one and of those behind it are as at first. -/
  failed : ∀ e, r = .error e → ∃ before m after, schema.ReadsUpTo o source x before m after x'
    ∧ m.toRead o source x' = .error e
    ∧ ∀ m' ∈ m :: after, x'.at? m'.path m'.slot = x.at? m'.path m'.slot

/-- Reading changes only slots of members that take part and are not skipped. If it fails at a
member, the object is exactly what the members before this one make of it by themselves. -/
theorem read_framed {schema : Schema Codec} (hapart : schema.members.Pairwise Member.Apart)
    (o : Options) (source : σ) (x : Object) :
    schema.ReadFramed o source x (schema.read o source x).1 (schema.read o source x).2 where
  unreached path slot h := at?_read_of_avoids fun m hm _ => h m hm
  transient hskips m hm htransient := by
    refine at?_read_of_not_included hapart hm ?_
    rw [Options.includes, hskips, htransient]
    rfl
  skipped before m after y hupTo hskips := by
    rw [hupTo.at?_read hapart, Member.read, Member.toRead_of_skipsReading hskips]
    exact hupTo.at?_eq hapart
  failed e he := by
    have hrun : schema.read o source x = (.error e, (schema.read o source x).2) := Prod.ext he rfl
    obtain ⟨before, m, after, hupTo, hm⟩ := readsUpTo_of_error hrun
    refine ⟨before, m, after, hupTo, hm, fun m' hm' => ?_⟩
    -- such a member is apart from all that have been read
    rw [hupTo.members] at hapart
    exact hupTo.at?_eq_of_avoids fun m'' hm'' =>
      (List.pairwise_append.mp hapart).2.2 m'' hm'' m' hm'

end Schema

/-! ## Gateways

A gateway is built on an endpoint. It has a name, which is never empty and has a default, a token,
which is transient, and perhaps a note, which is left alone when there is none. Ports below 1024 are
not valid.
-/

namespace Example

/-- The type of endpoints. -/
def endpointType : ObjectType MemberType where
  name := "Endpoint"
  slots := [⟨"host", .string, .string ""⟩, ⟨"port", .integer .u16, .integer 0⟩,
    ⟨"weight", .integer .u8, .integer 0⟩]
  schema := ((((SchemaBuilder.start "Endpoint").field "host" "host" .string {}).field "port" "port"
    (.integer .u16) (MemberRules.add {} (.assert (.custom (.inline
      (DatumCondition.assertion (.atLeast (.integer 1024)))))))).field "weight" "weight"
    (.integer .u8) {}).build

/-- The rules of the name of a gateway. -/
def nameRules : MemberRules :=
  MemberRules.addBlock {}
    [.comment "Shown to users", .default ⟨.inline fun _ => .string "unnamed", [.isMissing]⟩,
      .assert .notEmpty]

/-- The type of gateways. -/
def gatewayType : ObjectType MemberType where
  name := "Gateway"
  slots := [⟨"base", .object "Endpoint", .object endpointType.fresh⟩, ⟨"name", .string, .string ""⟩,
    ⟨"token", .string, .string ""⟩, ⟨"note", .option .string, .nothing⟩]
  schema := (((((SchemaBuilder.start "Gateway").field "name" "name" .string nameRules).field
    "token" "token" .string (MemberRules.markTransient {})).field "note" "note" (.option .string)
    (MemberRules.add {} (.skip none .isNull))).embed "base" endpointType.schema).build

/-- The schema of gateways. -/
def gatewaySchema : Schema Codec :=
  (TypeTable.compile { types := [endpointType, gatewayType] } gatewayType).schema

/-- A gateway with a note. -/
def gateway (name host : String) (port : Int) : Object :=
  ⟨"Gateway", [("base", .object ⟨"Endpoint", [("host", .string host), ("port", .integer port),
    ("weight", .integer 1)]⟩), ("name", .string name), ("token", .string "secret"),
    ("note", .just (.string "kept"))]⟩

/-- A tree with a port that is not valid, and without a name. -/
def gatewayTree : Tree :=
  .ofPairs [("token", .string "stolen"), ("host", .string "new"),
    ("port", .number (.integer 80)), ("weight", .number (.integer 3))]

theorem gatewaySchema_apart : gatewaySchema.members.Pairwise Member.Apart := by decide

/-- When the port is refused, the name and the host have been read. The token, which is transient,
the note, which has no entry, the port, and the weight behind it are as before. -/
theorem read_framed_gateway :
    gatewaySchema.read {} gatewayTree (gateway "" "old" 8080)
        = (.error (.assertion "port" "Endpoint" "80"), gateway "unnamed" "new" 8080)
      ∧ gatewaySchema.ReadFramed {} gatewayTree (gateway "" "old" 8080)
        (.error (.assertion "port" "Endpoint" "80")) (gateway "unnamed" "new" 8080) := by
  have hread : gatewaySchema.read {} gatewayTree (gateway "" "old" 8080)
      = (.error (.assertion "port" "Endpoint" "80"), gateway "unnamed" "new" 8080) := rfl
  have hframed := Schema.read_framed gatewaySchema_apart {} gatewayTree (gateway "" "old" 8080)
  rw [hread] at hframed
  exact ⟨hread, hframed⟩

end Example

end ConfigBinding
