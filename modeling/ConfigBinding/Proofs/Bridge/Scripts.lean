import ConfigBinding.Bridge.Script
import ConfigBinding.Proofs.Sequence
import ConfigBinding.Proofs.Value.Leaves

/-!
# Lists and maps of scripts

The value of a list is made item by item, and the value of a map step by step.

A step that gives a key together with its value stores an entry, provided that the key has a text
and the value converts (`MapStep.Gives`). A description made of such steps stores their entries one
after the other (`runSteps_eq_insertAll`), and entries with distinct keys make a map in which they stand
in the order of the steps (`toValue_map`).

A key that has no text ends the description, whatever its value is and whatever follows
(`toValue_map_refused`).

A value may be described in more than one way. Where lists are described by their items and maps by
their entries, the result is the value with other leaves, and it is enough to look at the leaves
(`toValue_eq_mapLeaves`).
-/

namespace ConfigBinding.Bridge

variable {steps before after : List MapStep} {step : MapStep} {entries done : List (String × Value)}
  {m : MapBuilder} {key value : Script} {k : Value} {e : Error}

/-! ## Lists -/

theorem itemValues_eq_mapM (scripts : List Script) : itemValues scripts = scripts.mapM (·.toValue) := by
  induction scripts with
  | nil => rfl
  | cons s rest ih => rw [itemValues, ih, List.mapM_cons]

/-! ## One step of a map -/

/-- The step gives an entry: a key that has the text, together with something that is the value. -/
inductive MapStep.Gives : MapStep → String × Value → Prop where
  | entry {key value : Script} {k v : Value} {text : String} (hkey : key.toValue = .ok k)
    (htext : MapBuilder.keyText k = .ok text) (hvalue : value.toValue = .ok v) :
    Gives (.entry key value) (text, v)

/-- The entry is stored, and no key waits behind it. -/
theorem MapStep.Gives.run {p : String × Value} (h : step.Gives p) (m : MapBuilder) :
    step.run m = .ok (m.giveValue p.1 p.2) := by
  obtain ⟨hkey, htext, hvalue⟩ := h
  simp only [MapStep.run, MapBuilder.giveKey, MapBuilder.takeKey, hkey, htext, hvalue, bind,
    Except.bind, pure, Except.pure]
  rfl

/-- A key without a text is refused before its value is looked at. -/
theorem MapStep.run_entry_refused (hkey : key.toValue = .ok k)
    (hrefused : MapBuilder.keyText k = .error e) (m : MapBuilder) :
    (MapStep.entry key value).run m = .error e := by
  simp only [MapStep.run, MapBuilder.giveKey, hkey, hrefused, bind, Except.bind]

/-! ## All steps of a map -/

/-- The entries of the steps are stored one after the other. -/
theorem runSteps_eq_insertAll (h : List.Forall₂ MapStep.Gives steps entries) :
    runSteps ⟨done, none⟩ steps = .ok ⟨Keyed.insertAll done entries, none⟩ := by
  induction h generalizing done with
  | nil => rfl
  | cons hstep _ ih =>
    rw [runSteps, hstep.run]
    exact ih

/-- What is refused after some entries is refused for the same reason. -/
theorem runSteps_refused (h : List.Forall₂ MapStep.Gives before entries)
    (hrefused : ∀ m, step.run m = .error e) :
    runSteps m (before ++ step :: after) = .error e := by
  induction h generalizing m with
  | nil =>
    rw [List.nil_append, runSteps, hrefused]
    rfl
  | cons hstep _ ih =>
    rw [List.cons_append, runSteps, hstep.run]
    exact ih

/-! ## The whole map -/

/-- Entries with distinct keys make a map in the order of the steps. -/
theorem toValue_map (h : List.Forall₂ MapStep.Gives steps entries)
    (hdistinct : Keyed.Distinct entries) :
    (Script.map steps).toValue = .ok (.config ⟨entries, []⟩) := by
  rw [Script.toValue, MapBuilder.start, runSteps_eq_insertAll h, Keyed.insertAll_nil hdistinct]
  rfl

/-- A description fails for the first key that has no text. -/
theorem toValue_map_refused (h : List.Forall₂ MapStep.Gives before entries)
    (hkey : key.toValue = .ok k) (hrefused : MapBuilder.keyText k = .error e) :
    (Script.map (before ++ .entry key value :: after)).toValue = .error e := by
  rw [Script.toValue, runSteps_refused h (MapStep.run_entry_refused hkey hrefused)]
  rfl

/-! ## Values described part by part -/

/-- If lists are described by their items and maps by their entries, what is described is the value
with its leaves as they are described. -/
theorem toValue_eq_mapLeaves {script : Value → Script} {f : Value → Value}
    (hleaf : ∀ v, v.isLeaf = true → (script v).toValue = .ok (f v))
    (hlist : ∀ items, (script (.list items)).toValue = (Script.seq (items.map script)).toValue)
    (hconfig : ∀ tree : Tree, (script (.config tree)).toValue
      = (Script.map (tree.entries.map fun p => .entry (.str p.1) (script p.2))).toValue)
    {v : Value} (hv : v.WellFormed) : (script v).toValue = .ok (v.mapLeaves f) := by
  induction v using Value.leafInduction with
  | leaf v h => rw [hleaf v h, Value.mapLeaves_of_isLeaf h]
  | list items ih =>
    have hitems : itemValues (items.map script) = .ok (items.map (Value.mapLeaves f)) := by
      rw [itemValues_eq_mapM, Result.mapM_eq_ok, List.forall₂_map_left_iff,
        List.forall₂_map_right_iff, List.forall₂_same]
      exact fun v hmem => ih v hmem (hv.item hmem)
    rw [hlist, Script.toValue, hitems, Value.mapLeaves_list]
    rfl
  | config tree ih =>
    have hgives : List.Forall₂ MapStep.Gives
        (tree.entries.map fun p => .entry (.str p.1) (script p.2))
        (Keyed.mapValues (Value.mapLeaves f) tree.entries) := by
      rw [List.forall₂_map_left_iff, Keyed.mapValues, List.forall₂_map_right_iff, List.forall₂_same]
      exact fun p hmem => .entry (k := .string p.1) rfl rfl (ih p hmem (hv.entry hmem))
    have hdistinct : Keyed.Distinct (Keyed.mapValues (Value.mapLeaves f) tree.entries) :=
      (Keyed.distinct_mapValues _ _).mpr hv.distinct
    rw [hconfig, toValue_map hgives hdistinct, Value.mapLeaves_config]

end ConfigBinding.Bridge
