import ConfigBinding.Proofs.Schema.Deposit
import ConfigBinding.Proofs.Schema.ReadFrame

/-!
# Nothing invalid gets through

Whether a run succeeds or fails, it has put nothing into the object or the store that the assertions
of the member were not checked on (`Schema.run_checked`). For an object that is read, they have been
checked in the object as it stood when the run came to the member. This holds of defaults, too, which
do not go through the converters.
-/

namespace ConfigBinding

variable {σ : Type} [Store σ] {schema : Schema Codec} {o : Options} {x : Object}

/-- The deposit of a member that takes part: of the datum that the member is written as, which meets
all its assertions, and which is converted into the value. -/
structure Deposit.IsChecked (schema : Schema Codec) (o : Options) (x : Object) (w : Deposit) :
    Prop where
  member : w.member ∈ schema.members
  included : o.includes w.member = true
  written : w.member.WrittenAs o x w.datum
  accepted : w.member.Accepts x w.datum
  converted : w.member.type.write o w.datum = .ok w.value

namespace Schema

/-- The deposits of an object are checked before they are made. -/
theorem isChecked_of_mem_deposits {w : Deposit} (h : w ∈ schema.deposits o x) :
    w.IsChecked schema o x := by
  obtain ⟨hm, hincluded, htoWrite⟩ := mem_deposits.mp h
  rcases Member.toWrite_cases htoWrite with ⟨-, hnone⟩ | ⟨d, v, -, hd, haccepts, hwrite, hsome⟩
  · cases hnone
  · obtain ⟨hdatum, hvalue⟩ := Prod.mk.inj (Option.some.inj hsome)
    rw [← hdatum] at hd haccepts hwrite
    rw [← hvalue] at hwrite
    exact ⟨hm, hincluded, hd, haccepts, hwrite⟩

/-- What a run that reads into `x` has put into its members when it ends with `x'`. -/
structure ReadChecked (schema : Schema Codec) (o : Options) (source : σ) (x x' : Object) :
    Prop where
  /-- The slot of a member is as at first, or it holds a datum that the member is read as, and that
  meets all its assertions in the object as it stood when the run came to the member. -/
  member : ∀ m ∈ schema.members, x'.at? m.path m.slot = x.at? m.path m.slot
    ∨ ∃ before after y d, schema.ReadsUpTo o source x before m after y ∧ m.ReadAs o source y d
      ∧ m.Accepts y d ∧ x'.at? m.path m.slot = some d
  /-- Slots that no member stands for are as at first. -/
  other : ∀ path slot, (∀ m ∈ schema.members, m.Avoids path slot) →
    x'.at? path slot = x.at? path slot

/-- What a run that writes `x` into the store `s` has put there when it ends with `s'`. -/
structure WriteChecked (schema : Schema Codec) (o : Options) (x : Object) (s s' : σ) : Prop where
  /-- The store has been given checked deposits, and nothing else. -/
  log : ∃ log : List Deposit, (∀ w ∈ log, w.IsChecked schema o x) ∧ s' = Deposit.putAll o s log
  /-- An entry is as at first, or it is that of a checked deposit. -/
  entry : Store.IsKeyed σ → ∀ key, Store.getRaw s' [key] = Store.getRaw s [key]
    ∨ ∃ w : Deposit, w.IsChecked schema o x ∧ w.key o = key
      ∧ Store.getRaw s' [key] = Entry.of (some w.value)

theorem readChecked (hapart : schema.members.Pairwise Member.Apart) (o : Options) (source : σ)
    (x : Object) : schema.ReadChecked o source x (schema.read o source x).2 where
  member m hm := by
    rcases at?_read_or_readsUpTo hapart o source x hm with h | h
    · exact .inl h
    obtain ⟨before, after, y, hupTo⟩ := h
    have hfirst := hupTo.at?_eq hapart
    have hlast := hupTo.at?_read hapart
    rcases m.at?_read_self o source y with hsame | hd
    · rw [hsame] at hlast
      exact .inl (hlast.trans hfirst)
    · obtain ⟨d, htoRead, hheld⟩ := hd
      rcases Member.toRead_cases htoRead with ⟨-, hnone⟩ | ⟨d', -, hread, haccepts, hsome⟩
      · cases hnone
      · obtain rfl := Option.some.inj hsome
        exact .inr ⟨before, after, y, d, hupTo, hread, haccepts, hlast.trans hheld⟩
  other path slot h := at?_read_of_avoids fun m hm _ => h m hm

theorem writeChecked (schema : Schema Codec) (o : Options) (x : Object) (s : σ) :
    schema.WriteChecked o x s (schema.write o x s).2 := by
  obtain ⟨log, hlog, hstore⟩ := schema.exists_putAll (o := o) (x := x) s
  have hchecked : ∀ w ∈ log, w.IsChecked schema o x := fun w hw =>
    isChecked_of_mem_deposits (hlog.subset hw)
  refine ⟨⟨log, hchecked, hstore⟩, fun hσ key => ?_⟩
  rw [hstore]
  exact (Deposit.getRaw_putAll hσ log key).imp_right fun ⟨w, hw, h⟩ => ⟨w, hchecked w hw, h⟩

/-- Whatever the schema, the options, the object and the store: when reading or writing ends, in
success or failure, all that it has put into the object or the store has met the assertions of its
member. For reading, no two members may share a place in the object. -/
theorem run_checked (hapart : schema.members.Pairwise Member.Apart) (o : Options) (s : σ)
    (x : Object) :
    schema.ReadChecked o s x (schema.read o s x).2
      ∧ schema.WriteChecked o x s (schema.write o x s).2 :=
  ⟨readChecked hapart o s x, writeChecked schema o x s⟩

end Schema

namespace Example

/-- What has been written of a gateway when its port is refused. -/
def refusedTree : Tree :=
  ⟨[("name", .string "edge"), ("note", .string "kept"), ("host", .string "old")],
    [("name", "Shown to users")]⟩

/-- Gateways whose port is refused: when one is read, its name is the default and its host is new;
when one is written, the members before the port are in the tree. -/
theorem run_checked_gateway :
    (gatewaySchema.read {} gatewayTree (gateway "" "old" 8080)
        = (.error (.assertion "port" "Endpoint" "80"), gateway "unnamed" "new" 8080)
      ∧ gatewaySchema.ReadChecked {} gatewayTree (gateway "" "old" 8080)
        (gateway "unnamed" "new" 8080))
    ∧ gatewaySchema.write {} (gateway "edge" "old" 80) Tree.empty
        = (.error (.assertion "port" "Endpoint" "80"), refusedTree)
      ∧ gatewaySchema.WriteChecked {} (gateway "edge" "old" 80) Tree.empty refusedTree := by
  have hread := (Schema.run_checked gatewaySchema_apart {} gatewayTree (gateway "" "old" 8080)).1
  have hwrite := (Schema.run_checked gatewaySchema_apart {} Tree.empty (gateway "edge" "old" 80)).2
  exact ⟨⟨rfl, hread⟩, rfl, hwrite⟩

end Example

end ConfigBinding
