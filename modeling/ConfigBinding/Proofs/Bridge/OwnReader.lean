import ConfigBinding.Proofs.Bridge.BigIntegers
import ConfigBinding.Proofs.Value.Normal

/-!
# Values read as values

A value that is read as a value comes out in its normal form, without its comments and with texts
for what has no other form. But the reader has no use for integers of 128 bits: if a big integer
within the value arrives as one, at any depth, the whole is refused for such a number
(`readsUnlessWide_decode`). Among the big integers these are the negative ones and those from
`2 ^ 64` on, as far as 128 bits reach. Beyond, they arrive as texts, and are read again.

The induction goes along the reader, through values, the items of a list, and the entries of a map.
What is to be shown is closed under the steps that the reader is made of.
-/

namespace ConfigBinding.Bridge

open Numeric

/-- Why an integer that arrives with 128 bits is refused as a value. -/
def wideRefusal (n : Int) : Refusal := .wrongType (Incoming.ofBig n) "any valid config value"

/-- The step comes to a result, unless some of the integers arrive with 128 bits; then it is refused
for one of these. -/
structure ReadsUnlessWide {α : Type} (among : Int → Prop) (r : Result α) (a : α) : Prop where
  reads : (∀ n, among n → ¬ ArrivesWide n) → r = .ok a
  refuses : (∃ n, among n ∧ ArrivesWide n) →
    ∃ n, among n ∧ ArrivesWide n ∧ r = refuse (wideRefusal n)

namespace ReadsUnlessWide

variable {α β : Type} {among among' : Int → Prop} {r : Result α} {a : α}

theorem of_forall_not (hnone : ∀ n, ¬ among n) (h : r = .ok a) : ReadsUnlessWide among r a where
  reads _ := h
  refuses := fun ⟨n, hn, _⟩ => absurd hn (hnone n)

theorem congr (h : ReadsUnlessWide among r a) (hamong : ∀ n, among' n ↔ among n) :
    ReadsUnlessWide among' r a := by
  obtain rfl : among' = among := funext fun n => propext (hamong n)
  exact h

theorem map (h : ReadsUnlessWide among r a) (f : α → β) :
    ReadsUnlessWide among (f <$> r) (f a) where
  reads hnone := by
    rw [h.reads hnone]
    rfl
  refuses hwide := by
    obtain ⟨n, hn, hwide, hr⟩ := h.refuses hwide
    exact ⟨n, hn, hwide, by rw [hr]; rfl⟩

/-- Of two steps the first one is refused for its integers, and the second one for its own. -/
theorem bind {f : α → Result β} {b : β} (h : ReadsUnlessWide among r a)
    (hf : ReadsUnlessWide among' (f a) b) :
    ReadsUnlessWide (fun n => among n ∨ among' n) (r >>= f) b where
  reads hnone := by
    rw [h.reads fun n hn => hnone n (.inl hn)]
    exact hf.reads fun n hn => hnone n (.inr hn)
  refuses hwide := by
    by_cases hfirst : ∃ n, among n ∧ ArrivesWide n
    · obtain ⟨n, hn, hwide, hr⟩ := h.refuses hfirst
      exact ⟨n, .inl hn, hwide, by rw [hr]; rfl⟩
    · have hok : r = .ok a := h.reads fun n hn hwide => hfirst ⟨n, hn, hwide⟩
      obtain ⟨n, hn, hwide⟩ := hwide
      have hsecond : among' n := hn.resolve_left fun hn => hfirst ⟨n, hn, hwide⟩
      obtain ⟨n', hn', hwide', hrefused⟩ := hf.refuses ⟨n, hsecond, hwide⟩
      exact ⟨n', .inr hn', hwide', by rw [hok]; exact hrefused⟩

end ReadsUnlessWide

/-- A big integer on its own is refused if it arrives with 128 bits. -/
theorem readsUnlessWide_bigInt (n : Int) :
    ReadsUnlessWide (fun m => (Value.bigInt m).Within (.bigInt n)) (readValue (.bigInt n))
      (Value.bigInt n).normal := by
  have hwithin : ∀ m, (Value.bigInt m).Within (.bigInt n) ↔ m = n := fun m => by
    rw [Value.within_bigInt_iff, Value.bigInt.injEq]
  refine ReadsUnlessWide.congr ?_ hwithin
  rcases ofBig_cases n with ⟨hnarrow, hof⟩ | ⟨hwide, source, hbits, hof⟩ | ⟨hbeyond, hof⟩
  · have hnormal : (Value.bigInt n).normal = .ofInt n := by
      rw [Value.normal, if_pos (by omega)]
    have hnot : ¬ ArrivesWide n := by
      unfold ArrivesWide
      omega
    refine ⟨fun _ => ?_, fun ⟨m, hm, hwide⟩ => absurd (hm ▸ hwide) hnot⟩
    rw [hnormal]
    simp [readValue, Incoming.of, hof, IntType.bits]
  · refine ⟨fun hnone => absurd hwide (hnone n rfl), fun _ => ⟨n, rfl, hwide, ?_⟩⟩
    simp [readValue, Incoming.of, hof, hbits, wideRefusal]
  · have hnormal : (Value.bigInt n).normal = .string (toString n) := by
      rw [Value.normal, if_neg hbeyond]
    have hnot : ¬ ArrivesWide n := fun h => hbeyond ⟨h.1, h.2.1⟩
    refine ⟨fun _ => ?_, fun ⟨m, hm, hwide⟩ => absurd (hm ▸ hwide) hnot⟩
    rw [hnormal]
    simp [readValue, Incoming.of, hof]

mutual

/-- A well-formed value is read in its normal form, unless a big integer within it arrives with 128
bits. -/
theorem readsUnlessWide_readValue : ∀ v : Value, v.WellFormed →
    ReadsUnlessWide (fun n => (Value.bigInt n).Within v) (readValue v) v.normal
  | .list items, hv => by
    have hitems := readsUnlessWide_readValues items fun v hmem => hv.item hmem
    rw [readValue, Value.normal]
    exact (hitems.map Value.list).congr fun n => by simp [Value.within_list_iff]
  | .config ⟨entries, comments⟩, hv => by
    have hdistinct : Keyed.Distinct (normalEntries entries) := by
      rw [normalEntries_eq_mapValues, Keyed.distinct_mapValues]
      exact hv.distinct
    have hentries := readsUnlessWide_readValueEntries entries [] fun p hmem => hv.entry hmem
    rw [Keyed.insertAll_nil hdistinct] at hentries
    rw [readValue, Value.normal]
    exact (hentries.map _).congr fun n => by simp [Value.within_config_iff]
  | .bigInt n, _ => readsUnlessWide_bigInt n
  | .number (.integer n), _ => by
    refine .of_forall_not nofun ?_
    simp [readValue, Value.normal, Incoming.of, IntType.bits, Value.ofInt_toInt]
  | .number (.float _), _ => .of_forall_not nofun rfl
  | .null, _ => .of_forall_not nofun rfl
  | .bool _, _ => .of_forall_not nofun rfl
  | .string _, _ => .of_forall_not nofun rfl
  | .dateTime _, _ => .of_forall_not nofun rfl

theorem readsUnlessWide_readValues : ∀ items : List Value, (∀ v ∈ items, v.WellFormed) →
    ReadsUnlessWide (fun n => ∃ v ∈ items, (Value.bigInt n).Within v) (readValues items)
      (normalItems items)
  | [], _ => .of_forall_not (by simp) rfl
  | v :: rest, hitems => by
    have hv := readsUnlessWide_readValue v (hitems v List.mem_cons_self)
    have hrest := readsUnlessWide_readValues rest fun v' hmem =>
      hitems v' (List.mem_cons_of_mem _ hmem)
    rw [readValues, normalItems]
    exact (hv.bind (hrest.map (v.normal :: ·))).congr fun n => by simp

/-- The entries of a map are stored after those that have been read. -/
theorem readsUnlessWide_readValueEntries : ∀ entries read : List (String × Value),
    (∀ p ∈ entries, p.2.WellFormed) →
    ReadsUnlessWide (fun n => ∃ p ∈ entries, (Value.bigInt n).Within p.2)
      (readValueEntries read entries) (Keyed.insertAll read (normalEntries entries))
  | [], _, _ => .of_forall_not (by simp) rfl
  | (k, v) :: rest, read, hentries => by
    have hv := readsUnlessWide_readValue v (hentries (k, v) List.mem_cons_self)
    have hrest := readsUnlessWide_readValueEntries rest (Keyed.insert read k v.normal)
      fun p hmem => hentries p (List.mem_cons_of_mem _ hmem)
    rw [readValueEntries, normalEntries]
    exact (hv.bind hrest).congr fun n => by simp

end

/-- What is read as a value is the normal form of it, unless a big integer within it arrives with
128 bits; then the value is refused for such a number. -/
theorem readsUnlessWide_decode {v : Value} (hv : v.WellFormed) :
    ReadsUnlessWide (fun n => (Value.bigInt n).Within v) (DataType.value.decode v)
      (.value v.normal) := by
  rw [DataType.decode]
  exact (readsUnlessWide_readValue v hv).map Data.value

namespace Example

/-- Sizes with a comment, none of which arrives with 128 bits. -/
def sizes : Value :=
  .config ⟨[("sizes", .list [.bigInt 7, .bigInt (2 ^ 63), .bigInt (2 ^ 128)])],
    [("sizes", "in bytes")]⟩

theorem readsUnlessWide_sizes :
    sizes.WellFormed ∧ DataType.value.decode sizes
      = .ok (.value (.config ⟨[("sizes", .list [.number (.integer 7), .bigInt (2 ^ 63),
          .string "340282366920938463463374607431768211456"])], []⟩)) := by
  have hwithin : ∀ w : Value, w.Within sizes ↔ w = sizes
      ∨ w = .list [.bigInt 7, .bigInt (2 ^ 63), .bigInt (2 ^ 128)]
      ∨ w = .bigInt 7 ∨ w = .bigInt (2 ^ 63) ∨ w = .bigInt (2 ^ 128) := by
    simp [sizes, Value.within_config_iff, Value.within_list_iff, Value.within_bigInt_iff]
  have hwell : sizes.WellFormed := by
    intro tree htree
    rcases (hwithin _).mp htree with hself | hleaf | hleaf | hleaf | hleaf
    · obtain rfl := Value.config.inj hself
      exact ⟨List.pairwise_singleton _ _, List.pairwise_singleton _ _⟩
    all_goals cases hleaf
  refine ⟨hwell, (readsUnlessWide_decode hwell).reads fun n hn => ?_⟩
  have hn' : n = 7 ∨ n = 2 ^ 63 ∨ n = 2 ^ 128 := by
    rw [hwithin] at hn
    simpa [sizes] using hn
  unfold ArrivesWide
  omega

/-- An integer beyond 64 bits and a negative one are values, but are not read as values. -/
theorem bigInt_wide_refused :
    (Value.bigInt (2 ^ 64)).WellFormed ∧ (Value.bigInt (-5)).WellFormed
      ∧ DataType.value.decode (.bigInt (2 ^ 64))
        = refuse (.wrongType (.integer .i128 (2 ^ 64)) "any valid config value")
      ∧ DataType.value.decode (.bigInt (-5))
        = refuse (.wrongType (.integer .i128 (-5)) "any valid config value") :=
  ⟨nofun, nofun, rfl, rfl⟩

end Example

end ConfigBinding.Bridge
