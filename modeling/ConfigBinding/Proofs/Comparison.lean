import ConfigBinding.Proofs.Sequence
import Mathlib.Data.List.Perm.Basic

/-!
# Comparing two runs

To show that something does not matter to a run, two runs that differ in it are compared step by
step. What is kept up on the way is a relation between their results: that they agree, failing with
errors of one kind or succeeding with related outcomes (`Result.Agree`), perhaps but for an excuse
that the kinds of their errors may have (`Result.AgreeUnless`), or that the second succeeds where the
first does (`Result.Yields`).

Most of such a proof does not depend on which of these it is. A `Comparison` is what they have in
common: a relation between results that follows steps through a sequence.
-/

namespace ConfigBinding

namespace Result

variable {α β γ : Type} {P : Prop}

/-- Both results are good, and what they hold is related, or both are errors. Those are of one kind,
unless there is an excuse. -/
inductive AgreeUnless (P : Prop) (R : α → β → Prop) : Result α → Result β → Prop where
  | ok {a : α} {b : β} (h : R a b) : AgreeUnless P R (.ok a) (.ok b)
  | error {e e' : Error} (h : e.kind = e'.kind ∨ P) : AgreeUnless P R (.error e) (.error e')

/-- Both results are good, and what they hold is related, or both are errors of one kind. -/
abbrev Agree (R : α → β → Prop) : Result α → Result β → Prop := AgreeUnless False R

/-- What results that agree hold, if anything, is the same. -/
theorem AgreeUnless.toOption_eq {x y : Result α} (h : AgreeUnless P Eq x y) :
    x.toOption = y.toOption := by
  cases h with
  | ok h => exact congrArg some h
  | error _ => rfl

theorem AgreeUnless.trans {R : α → β → Prop} {S : β → γ → Prop} {x : Result α} {y : Result β}
    {z : Result γ} (hxy : AgreeUnless P R x y) (hyz : AgreeUnless P S y z) :
    AgreeUnless P (Relation.Comp R S) x z := by
  cases hxy with
  | ok hab =>
    cases hyz with
    | ok hbc => exact .ok ⟨_, hab, hbc⟩
  | error h =>
    cases hyz with
    | error h' =>
      rcases h with h | h
      · exact .error (h'.imp_left h.trans)
      · exact .error (.inr h)

/-- If the first result is good, so is the second, and what they hold is related. -/
def Yields (R : α → β → Prop) (x : Result α) (y : Result β) : Prop :=
  ∀ a, x = .ok a → ∃ b, y = .ok b ∧ R a b

theorem yields_eq_iff {x y : Result α} : Yields Eq x y ↔ ∀ a, x = .ok a → y = .ok a := by
  simp [Yields]

end Result

/-- A relation between the results of two runs, for each relation between their outcomes. -/
structure Comparison where
  Rel {α β : Type} (R : α → β → Prop) : Result α → Result β → Prop
  ok {α β : Type} {R : α → β → Prop} {a : α} {b : β} (h : R a b) : Rel R (.ok a) (.ok b)
  error {α β : Type} {R : α → β → Prop} {e e' : Error} (h : e.kind = e'.kind) :
    Rel R (.error e) (.error e')
  bind {α β γ δ : Type} {R : α → β → Prop} {S : γ → δ → Prop} {x : Result α} {y : Result β}
    {f : α → Result γ} {g : β → Result δ} (h : Rel R x y)
    (hnext : ∀ a b, R a b → Rel S (f a) (g b)) :
    Rel S (x >>= f) (y >>= g)
  /-- Errors may be reported differently, as long as their kinds stay. -/
  mapError {α β : Type} {R : α → β → Prop} {x : Result α} {y : Result β} {f g : Error → Error}
    (hf : ∀ e, (f e).kind = e.kind) (hg : ∀ e, (g e).kind = e.kind) (h : Rel R x y) :
    Rel R (x.mapError f) (y.mapError g)

namespace Comparison

/-- Two runs that agree, but for an excuse. -/
def agreementUnless (P : Prop) : Comparison where
  Rel := Result.AgreeUnless P
  ok := .ok
  error h := .error (.inl h)
  bind h hnext := by
    cases h with
    | ok h => exact hnext _ _ h
    | error h => exact .error h
  mapError hf hg h := by
    cases h with
    | ok h => exact .ok h
    | error h => exact .error (h.imp_left fun h => (hf _).trans (h.trans (hg _).symm))

/-- Two runs that agree. -/
def agreement : Comparison := agreementUnless False

/-- A run that succeeds where another one does. -/
def yielding : Comparison where
  Rel := Result.Yields
  ok h := by
    rintro _ ⟨⟩
    exact ⟨_, rfl, h⟩
  error _ := nofun
  bind h hnext := by
    intro c hc
    obtain ⟨a, ha, hc⟩ := Result.bind_eq_ok.mp hc
    obtain ⟨b, rfl, hab⟩ := h a ha
    exact hnext a b hab c hc
  mapError _ _ h := by
    intro a ha
    obtain ⟨b, rfl, hab⟩ := h a (Result.mapError_eq_ok.mp ha)
    exact ⟨b, rfl, hab⟩

variable (L : Comparison) {α β γ δ : Type} {R : α → β → Prop} {S : γ → δ → Prop}

/-- A run compares with itself. -/
theorem refl (x : Result α) : L.Rel Eq x x := by
  cases x with
  | ok a => exact L.ok rfl
  | error e => exact L.error rfl

variable {L}

/-- Runs that agree compare in every way. -/
theorem of_agree {x : Result α} {y : Result β} (h : Result.Agree R x y) : L.Rel R x y := by
  cases h with
  | ok h => exact L.ok h
  | error h => exact L.error (h.resolve_right id)

theorem map {x : Result α} {y : Result β} {f : α → γ} {g : β → δ} (h : L.Rel R x y)
    (hfg : ∀ a b, R a b → S (f a) (g b)) : L.Rel S (f <$> x) (g <$> y) := by
  rw [map_eq_pure_bind, map_eq_pure_bind]
  exact L.bind h fun a b hab => L.ok (hfg a b hab)

theorem mono {R' : α → β → Prop} {x : Result α} {y : Result β} (h : L.Rel R x y)
    (hR : ∀ a b, R a b → R' a b) : L.Rel R' x y := by
  have hmap := L.map (f := id) (g := id) h hR
  rwa [id_map, id_map] at hmap

/-- Equal outcomes are passed on to steps that compare. -/
theorem bind_eq {x y : Result α} {f : α → Result γ} {g : α → Result δ} (h : L.Rel Eq x y)
    (hnext : ∀ a, L.Rel S (f a) (g a)) : L.Rel S (x >>= f) (y >>= g) :=
  L.bind h fun a _ hab => hab ▸ hnext a

/-- So is what both runs have in common. -/
theorem bind_self {x : Result α} {f : α → Result γ} {g : α → Result δ}
    (hnext : ∀ a, x = .ok a → L.Rel S (f a) (g a)) : L.Rel S (x >>= f) (x >>= g) := by
  cases x with
  | ok a => exact hnext a rfl
  | error e => exact L.error rfl

/-- Runs over lists compare if they do so item by item. -/
theorem mapM {f : α → Result γ} {g : β → Result δ} {xs : List α} {ys : List β}
    (h : List.Forall₂ (fun x y => L.Rel S (f x) (g y)) xs ys) :
    L.Rel (List.Forall₂ S) (xs.mapM f) (ys.mapM g) := by
  induction h with
  | nil => exact L.ok .nil
  | cons hx _ ih =>
    rw [List.mapM_cons, List.mapM_cons]
    exact L.bind hx fun a b hab => L.bind ih fun as bs habs => L.ok (.cons hab habs)

theorem mapM_eq_of_forall₂ {f : α → Result γ} {g : β → Result γ} {xs : List α} {ys : List β}
    (h : List.Forall₂ (fun x y => L.Rel Eq (f x) (g y)) xs ys) :
    L.Rel Eq (xs.mapM f) (ys.mapM g) := by
  have hmapM := L.mapM h
  rwa [List.forall₂_eq_eq_eq] at hmapM

/-- Runs over one list compare if they do so for each of its items. -/
theorem mapM_eq {f g : α → Result γ} {xs : List α} (h : ∀ x ∈ xs, L.Rel Eq (f x) (g x)) :
    L.Rel Eq (xs.mapM f) (xs.mapM g) :=
  L.mapM_eq_of_forall₂ (List.forall₂_same.mpr h)

/-- So do runs for their own sake. -/
theorem forM {f g : α → Result Unit} {xs : List α} (h : ∀ x ∈ xs, L.Rel Eq (f x) (g x)) :
    L.Rel Eq (xs.forM f) (xs.forM g) := by
  induction xs with
  | nil => exact L.refl _
  | cons x rest ih =>
    obtain ⟨hx, hrest⟩ := List.forall_mem_cons.mp h
    exact L.bind_eq hx fun _ => ih hrest

end Comparison

end ConfigBinding
