import ConfigBinding.Proofs.Bridge.OwnReader
import ConfigBinding.Proofs.Bridge.Scripts
import ConfigBinding.Proofs.Value.Leaves

/-!
# Values written as values

A value that describes itself is written in its erased form, without its comments and with texts for
date-times and big integers. The lists and maps within it are written as all others are, item by
item and entry by entry (`ownItems_eq_itemValues`, `ownEntries_eq_runSteps`).

Nothing is left in the erased form that a reader of values changes or refuses, so it is read as it
is, and written as it is again (`writesErased`).
-/

namespace ConfigBinding.Bridge

open Numeric

theorem ownItems_eq_itemValues (items : List Value) :
    ownItems items = itemValues (items.map Script.value) := by
  induction items with
  | nil => rfl
  | cons v rest ih => rw [ownItems, ih, List.map_cons, itemValues, Script.toValue]

theorem ownEntries_eq_runSteps (m : MapBuilder) (entries : List (String × Value)) :
    ownEntries m entries = runSteps m (entries.map fun p => .entry (.str p.1) (.value p.2)) := by
  induction entries generalizing m with
  | nil => rfl
  | cons p rest ih =>
    simp only [ownEntries, ih, List.map_cons, runSteps, MapStep.run, Script.toValue]
    cases ownValue p.2 <;> rfl

/-- A value writes itself in its erased form. -/
theorem toValue_value {v : Value} (hv : v.WellFormed) : (Script.value v).toValue = .ok v.erased := by
  refine toValue_eq_mapLeaves (fun v hleaf => ?_) (fun items => ?_) (fun tree => ?_) hv
  · rw [Script.toValue]
    cases v <;> first | rfl | cases hleaf
  · rw [Script.toValue, Script.toValue, ownValue, ownItems_eq_itemValues]
  · obtain ⟨entries, comments⟩ := tree
    rw [Script.toValue, Script.toValue, ownValue, ownEntries_eq_runSteps]

/-- One pass is enough for the value: what is written once is read and written as it is. -/
structure WritesErased (v : Value) : Prop where
  writes : (DataType.value.encode (.value v)).toValue = .ok v.erased
  reads : DataType.value.decode v.erased = .ok (.value v.erased)
  settles : (DataType.value.encode (.value v.erased)).toValue = .ok v.erased

/-- A value writes itself in its erased form, which later passes do not change. -/
theorem writesErased {v : Value} (hv : v.WellFormed) : WritesErased v where
  writes := toValue_value hv
  reads := by
    have hread := (readsUnlessWide_readValue v.erased hv.erased).reads fun n hwithin =>
      absurd hwithin (Value.not_bigInt_within_erased n v)
    rw [DataType.decode, hread, Value.normal_erased]
    rfl
  settles := by
    have hwrite := toValue_value hv.erased
    rwa [Value.erased_erased] at hwrite

namespace Example

/-- A release with a comment, a date-time, a big integer, a null marker, and both kinds of number. -/
def release : Value :=
  .config ⟨[("date", .dateTime ⟨86400, 500000000, by decide⟩), ("build", .bigInt (2 ^ 64)),
    ("scores", .list [.null, .number (.integer 1), .number (.float (Binary.ofInt .double 1))])],
    [("build", "of the day")]⟩

theorem writesErased_release :
    release.WellFormed ∧ (DataType.value.encode (.value release)).toValue
      = .ok (.config ⟨[("date", .string "1970-01-02T00:00:00.500+00:00"),
          ("build", .string "18446744073709551616"),
          ("scores", .list [.null, .number (.integer 1),
            .number (.float (Binary.ofInt .double 1))])], []⟩) := by
  have hwell : release.WellFormed := by
    simp only [release, Value.wellFormed_config_iff, Value.wellFormed_list_iff,
      List.forall_mem_cons]
    refine ⟨?_, nofun, nofun, ⟨nofun, nofun, nofun, nofun⟩, nofun⟩
    simp [Keyed.Distinct, Keyed.keys]
  exact ⟨hwell, (writesErased hwell).writes⟩

end Example

end ConfigBinding.Bridge
