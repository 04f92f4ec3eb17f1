import ConfigBinding.Bridge.DataType
import ConfigBinding.Proofs.Bridge.BigIntegers
import ConfigBinding.Proofs.Bridge.Scripts
import ConfigBinding.Proofs.Value.Leaves

/-!
# Values read as they come and written again

A reader without a wish writes down what arrives and replays it as a script. The value that the
script makes is the normal form of the one that was read (`decode_replay`): reading and writing have
four widths of integers between them, and every way in which an integer arrives leads back to the
same integer; lists and maps are taken apart and put together in the same order.

What is written down of a list are its items, and of a map its entries, so only the leaves need a
comparison of the reading with the writing.
-/

namespace ConfigBinding.Bridge

open Numeric

/-! ## What is written down -/

theorem recordingScripts_recordItems (items : List Value) :
    recordingScripts (recordItems items) = items.map describe := by
  induction items with
  | nil => rfl
  | cons v rest ih =>
    rw [recordItems, recordingScripts, ih]
    rfl

theorem recordingSteps_recordEntries (entries : List (String × Value)) :
    recordingSteps (recordEntries entries)
      = entries.map fun p => .entry (.str p.1) (describe p.2) := by
  induction entries with
  | nil => rfl
  | cons p rest ih =>
    rw [recordEntries, recordingSteps, ih]
    rfl

/-- A list is described item by item. -/
theorem describe_list (items : List Value) :
    describe (.list items) = .seq (items.map describe) := by
  rw [describe, record, Recording.script, recordingScripts_recordItems]

/-- A map is described entry by entry. -/
theorem describe_config (tree : Tree) :
    describe (.config tree) = .map (tree.entries.map fun p => .entry (.str p.1) (describe p.2)) := by
  obtain ⟨entries, comments⟩ := tree
  rw [describe, record, Recording.script, recordingSteps_recordEntries]

/-- A big integer is written down as an integer of some type, unless it lies beyond 128 bits. -/
theorem recordBig_cases (n : Int) :
    ((-2 ^ 127 ≤ n ∧ n < 2 ^ 128) ∧ ∃ type, recordBig n = .integer type n)
      ∨ (¬ (-2 ^ 127 ≤ n ∧ n < 2 ^ 128) ∧ recordBig n = .str (toString n)) := by
  have hi128 : IntType.i128.contains n = true ↔ -2 ^ 127 ≤ n ∧ n ≤ 2 ^ 127 - 1 :=
    IntType.contains_iff
  have hu128 : IntType.u128.contains n = true ↔ 0 ≤ n ∧ n ≤ 2 ^ 128 - 1 := IntType.contains_iff
  rw [recordBig]
  split
  · rename_i hu64
    exact .inl ⟨bounds_of_contains hu64, .u64, rfl⟩
  split
  · rename_i h
    exact .inl ⟨bounds_of_contains h, .i128, rfl⟩
  split
  · rename_i h
    exact .inl ⟨bounds_of_contains h, .u128, rfl⟩
  · rename_i hnot hnot'
    rw [hi128] at hnot
    rw [hu128] at hnot'
    exact .inr ⟨by omega, rfl⟩

/-! ## Replaying -/

/-- Whatever the width with which a big integer arrives, the same integer is written. -/
theorem toValue_describe_bigInt (n : Int) :
    (describe (.bigInt n)).toValue = .ok (Value.bigInt n).normal := by
  rw [describe, record, Value.normal]
  rcases recordBig_cases n with ⟨hbounds, type, hrecord⟩ | ⟨hbeyond, hrecord⟩
  · rw [hrecord, if_pos hbounds]
    rfl
  · rw [hrecord, if_neg hbeyond]
    rfl

theorem toValue_describe_leaf {v : Value} (hv : v.isLeaf = true) :
    (describe v).toValue = .ok v.normal := by
  cases v with
  | bigInt n => exact toValue_describe_bigInt n
  | number n =>
    cases n with
    | integer i => exact congrArg Except.ok (Value.ofInt_toInt i)
    | float x => rfl
  | list | config => cases hv
  | _ => rfl

/-- What a value hands over makes its normal form. -/
theorem toValue_describe {v : Value} (hv : v.WellFormed) : (describe v).toValue = .ok v.normal := by
  rw [Value.normal_eq_mapLeaves]
  refine toValue_eq_mapLeaves (fun _ => toValue_describe_leaf) (fun items => ?_) (fun tree => ?_) hv
  · rw [describe_list]
  · rw [describe_config]

/-- A value that is read without a wish and written again comes out in its normal form, and a value
in its normal form comes out as it is. -/
theorem decode_replay {v : Value} (hv : v.WellFormed) :
    (DataType.script.decode v >>= fun d => (DataType.script.encode d).toValue) = .ok v.normal
      ∧ v.normal.normal = v.normal := by
  refine ⟨?_, v.normal_normal⟩
  have hread : DataType.script.decode v = .ok (.script (describe v)) := by rw [DataType.decode]
  rw [hread]
  exact toValue_describe hv

namespace Example

/-- A schedule with a comment, a date-time, and integers of several widths. -/
def schedule : Value :=
  .config ⟨[("start", .dateTime ⟨0, 0, by decide⟩),
    ("limits", .list [.bigInt 5, .bigInt (-2 ^ 64), .bigInt (2 ^ 128), .number (.integer 1)]),
    ("label", .null)], [("limits", "per hour")]⟩

theorem decode_replay_schedule :
    schedule.WellFormed ∧
      (DataType.script.decode schedule >>= fun d => (DataType.script.encode d).toValue)
        = .ok (.config ⟨[("start", .string "1970-01-01T00:00:00+00:00"),
          ("limits", .list [.number (.integer 5), .bigInt (-2 ^ 64),
            .string "340282366920938463463374607431768211456", .number (.integer 1)]),
          ("label", .null)], []⟩) := by
  have hwell : schedule.WellFormed := by
    simp only [schedule, Value.wellFormed_config_iff, Value.wellFormed_list_iff,
      List.forall_mem_cons]
    refine ⟨?_, nofun, ⟨nofun, nofun, nofun, nofun, nofun⟩, nofun, nofun⟩
    simp [Keyed.Distinct, Keyed.keys]
  exact ⟨hwell, (decode_replay hwell).1⟩

end Example

end ConfigBinding.Bridge
