import ConfigBinding.Error
import ConfigBinding.Proofs.Keyed

/-!
# Steps that can fail, one after the other

When a sequence of steps succeeds, each of them has succeeded: a run over a list relates its items
to the results one by one, and a run over a keyed list keeps the keys. When it fails, one of them
has failed.
-/

namespace ConfigBinding

variable {α β γ : Type}

/-- When each item has a partner, the list has partners one by one. -/
theorem exists_forall₂ {R : α → β → Prop} {xs : List α} (h : ∀ x ∈ xs, ∃ y, R x y) :
    ∃ ys, List.Forall₂ R xs ys := by
  induction xs with
  | nil => exact ⟨[], .nil⟩
  | cons x rest ih =>
    obtain ⟨y, hy⟩ := h x List.mem_cons_self
    obtain ⟨ys, hys⟩ := ih fun x' hx' => h x' (List.mem_cons_of_mem _ hx')
    exact ⟨y :: ys, .cons hy hys⟩

/-- In lists related one by one, every item on the right has a partner on the left. -/
theorem exists_of_forall₂ {R : α → β → Prop} {xs : List α} {ys : List β}
    (h : List.Forall₂ R xs ys) {y : β} (hy : y ∈ ys) : ∃ x ∈ xs, R x y := by
  induction h with
  | nil => simp at hy
  | cons hx _ ih =>
    rcases List.mem_cons.mp hy with rfl | hy
    · exact ⟨_, List.mem_cons_self, hx⟩
    · obtain ⟨x, hx, hxy⟩ := ih hy
      exact ⟨x, List.mem_cons_of_mem _ hx, hxy⟩

namespace Result

theorem map_eq_ok {f : α → β} {x : Result α} {b : β} :
    f <$> x = .ok b ↔ ∃ a, x = .ok a ∧ f a = b := by
  cases x with
  | error e => simp [Functor.map, Except.map]
  | ok a => simp [Functor.map, Except.map]

theorem bind_eq_ok {f : α → Result β} {x : Result α} {b : β} :
    (x >>= f) = .ok b ↔ ∃ a, x = .ok a ∧ f a = .ok b := by
  cases x with
  | error e => simp [bind, Except.bind]
  | ok a => simp [bind, Except.bind]

theorem map_eq_error {f : α → β} {x : Result α} {e : Error} :
    f <$> x = .error e ↔ x = .error e := by
  cases x with
  | error e => simp [Functor.map, Except.map]
  | ok a => simp [Functor.map, Except.map]

theorem bind_eq_error {f : α → Result β} {x : Result α} {e : Error} :
    (x >>= f) = .error e ↔ x = .error e ∨ ∃ a, x = .ok a ∧ f a = .error e := by
  cases x with
  | error e => simp [bind, Except.bind]
  | ok a => simp [bind, Except.bind]

theorem toOption_bind (x : Result α) (f : α → Result β) :
    (x >>= f).toOption = x.toOption.bind fun a => (f a).toOption := by
  cases x <;> rfl

theorem toOption_eq_some {ε : Type} {x : Except ε α} {a : α} : x.toOption = some a ↔ x = .ok a := by
  cases x <;> simp [Except.toOption]

theorem toOption_eq_none {ε : Type} {x : Except ε α} : x.toOption = none ↔ ∃ e, x = .error e := by
  cases x <;> simp [Except.toOption]

theorem mapError_eq_error {f : Error → Error} {x : Result α} {e : Error} :
    x.mapError f = .error e ↔ ∃ e', x = .error e' ∧ f e' = e := by
  cases x with
  | error e => simp [Except.mapError]
  | ok a => simp [Except.mapError]

theorem mapError_eq_ok {f : Error → Error} {x : Result α} {a : α} :
    x.mapError f = .ok a ↔ x = .ok a := by
  cases x with
  | error e => simp [Except.mapError]
  | ok a => simp [Except.mapError]

/-- A run over a list succeeds with the results of its items. -/
theorem mapM_eq_ok {f : α → Result β} {xs : List α} {ys : List β} :
    xs.mapM f = .ok ys ↔ List.Forall₂ (fun x y => f x = .ok y) xs ys := by
  induction xs generalizing ys with
  | nil => simp [pure, Except.pure, eq_comm]
  | cons x rest ih =>
    rw [List.mapM_cons, bind_eq_ok, List.forall₂_cons_left_iff]
    constructor
    · rintro ⟨y, hy, hrest⟩
      obtain ⟨ys', hys, rfl⟩ := bind_eq_ok.mp hrest |>.imp fun _ => And.imp_right Except.ok.inj
      exact ⟨y, ys', hy, ih.mp hys, rfl⟩
    · rintro ⟨y, ys', hy, hys, rfl⟩
      exact ⟨y, hy, bind_eq_ok.mpr ⟨ys', ih.mpr hys, rfl⟩⟩

/-- A run over a list succeeds if it does so for each item. -/
theorem exists_mapM_eq_ok {f : α → Result β} {xs : List α} :
    (∃ ys, xs.mapM f = .ok ys) ↔ ∀ x ∈ xs, ∃ y, f x = .ok y := by
  simp only [mapM_eq_ok]
  constructor
  · rintro ⟨ys, hys⟩ x hx
    obtain ⟨y, -, hy⟩ := exists_of_forall₂ hys.flip hx
    exact ⟨y, hy⟩
  · exact exists_forall₂

/-- A run that changes no item changes nothing. -/
theorem mapM_eq_self {f : α → Result α} {xs : List α} (h : ∀ x ∈ xs, f x = .ok x) :
    xs.mapM f = .ok xs :=
  mapM_eq_ok.mpr (List.forall₂_same.mpr h)

/-- A run over a list fails with the error of the first of its items that fails. -/
theorem mapM_eq_error {f : α → Result β} {xs : List α} {e : Error} :
    xs.mapM f = .error e ↔ ∃ before x after, xs = before ++ x :: after ∧ f x = .error e
      ∧ ∀ y ∈ before, ∃ b, f y = .ok b := by
  constructor
  · intro h
    induction xs with
    | nil => simp [pure, Except.pure] at h
    | cons x rest ih =>
      rw [List.mapM_cons, bind_eq_error] at h
      rcases h with hx | ⟨y, hy, hrest⟩
      · exact ⟨[], x, rest, rfl, hx, nofun⟩
      · rcases bind_eq_error.mp hrest with hmap | ⟨ys, -, hpure⟩
        · obtain ⟨before, x', after, rfl, hx', hbefore⟩ := ih hmap
          exact ⟨x :: before, x', after, rfl, hx', List.forall_mem_cons.mpr ⟨⟨y, hy⟩, hbefore⟩⟩
        · simp [pure, Except.pure] at hpure
  · rintro ⟨before, x, after, rfl, hx, hbefore⟩
    induction before with
    | nil =>
      rw [List.nil_append, List.mapM_cons, hx]
      rfl
    | cons y before ih =>
      obtain ⟨⟨b, hy⟩, hrest⟩ := List.forall_mem_cons.mp hbefore
      rw [List.cons_append, List.mapM_cons, hy]
      exact bind_eq_error.mpr (.inr ⟨b, rfl, bind_eq_error.mpr (.inl (ih hrest))⟩)

/-- A run over a list fails with the error of one of its items. -/
theorem exists_of_mapM_eq_error {f : α → Result β} {xs : List α} {e : Error}
    (h : xs.mapM f = .error e) : ∃ x ∈ xs, f x = .error e := by
  obtain ⟨before, x, after, rfl, hx, -⟩ := mapM_eq_error.mp h
  exact ⟨x, List.mem_append_right before List.mem_cons_self, hx⟩

/-- A run over a list for its own sake fails with the error of one of its items, too. -/
theorem exists_of_forM_eq_error {f : α → Result Unit} {xs : List α} {e : Error}
    (h : xs.forM f = .error e) : ∃ x ∈ xs, f x = .error e := by
  induction xs with
  | nil => cases h
  | cons x rest ih =>
    rcases bind_eq_error.mp h with hx | ⟨_, -, hrest⟩
    · exact ⟨x, List.mem_cons_self, hx⟩
    · obtain ⟨x', hmem, hx'⟩ := ih hrest
      exact ⟨x', List.mem_cons_of_mem _ hmem, hx'⟩

/-- A run over a list for its own sake succeeds if each of its items does. -/
theorem forM_eq_ok {f : α → Result Unit} {xs : List α} :
    xs.forM f = .ok () ↔ ∀ x ∈ xs, f x = .ok () := by
  induction xs with
  | nil => simp [pure, Except.pure]
  | cons x rest ih =>
    rw [List.forM, bind_eq_ok, List.forall_mem_cons, ← ih]
    exact ⟨fun ⟨⟨⟩, hx, hrest⟩ => ⟨hx, hrest⟩, fun ⟨hx, hrest⟩ => ⟨(), hx, hrest⟩⟩

/-- A run over the values of a keyed list, which keeps the keys. -/
theorem mapM_values_eq_ok {f : α → Result β} {entries : List (String × α)}
    {results : List (String × β)} :
    (entries.mapM fun p => do let v ← f p.2; return (p.1, v)) = .ok results
      ↔ List.Forall₂ (fun p q => p.1 = q.1 ∧ f p.2 = .ok q.2) entries results := by
  have hstep : ∀ (p : String × α) (q : String × β),
      ((do let v ← f p.2; return (p.1, v) : Result (String × β)) = .ok q)
        ↔ p.1 = q.1 ∧ f p.2 = .ok q.2 := by
    intro p q
    cases h : f p.2 with
    | error e => simp [bind, Except.bind]
    | ok v => simp [bind, Except.bind, pure, Except.pure, Prod.ext_iff]
  rw [mapM_eq_ok]
  simp only [hstep]

end Result

/-- Items that agree one by one in what is taken from them. -/
theorem forall₂_eq_iff_map_eq {f : α → γ} {g : β → γ} {xs : List α} {ys : List β} :
    List.Forall₂ (fun x y => f x = g y) xs ys ↔ xs.map f = ys.map g := by
  rw [← List.forall₂_eq_eq_eq, List.forall₂_map_left_iff, List.forall₂_map_right_iff]

/-- Keyed lists with the same keys, whose values are related. -/
theorem forall₂_values_iff {R : α → β → Prop} {xs : List (String × α)}
    {ys : List (String × β)} :
    List.Forall₂ (fun p q => p.1 = q.1 ∧ R p.2 q.2) xs ys
      ↔ Keyed.keys xs = Keyed.keys ys ∧ ∀ p ∈ xs.zip ys, R p.1.2 p.2.2 := by
  constructor
  · intro h
    have hkeys : Keyed.keys xs = Keyed.keys ys :=
      forall₂_eq_iff_map_eq.mp (h.imp fun _ _ h => h.1)
    exact ⟨hkeys, fun p hp => (List.forall₂_zip h hp).2⟩
  · rintro ⟨hkeys, h⟩
    have hkeys' : List.Forall₂ (fun (p : String × α) (q : String × β) => p.1 = q.1) xs ys :=
      forall₂_eq_iff_map_eq.mpr hkeys
    rw [List.forall₂_iff_zip] at hkeys' ⊢
    exact ⟨hkeys'.1, fun hmem => ⟨hkeys'.2 hmem, h _ hmem⟩⟩

/-- The same keys with the same values. -/
theorem forall₂_values_eq_iff {xs ys : List (String × α)} :
    List.Forall₂ (fun p q => p.1 = q.1 ∧ p.2 = q.2) xs ys ↔ xs = ys := by
  simp only [← Prod.ext_iff, List.forall₂_eq_eq_eq]

/-- Lists of one length are empty together. -/
theorem isEmpty_eq_of_length_eq {xs : List α} {ys : List β} (h : xs.length = ys.length) :
    xs.isEmpty = ys.isEmpty := by
  rw [Bool.eq_iff_iff, List.isEmpty_iff_length_eq_zero, List.isEmpty_iff_length_eq_zero, h]

/-- What stands beside an item in the results was made of the item and of what stood beside it. -/
theorem exists_of_mem_zip_zipWith {f : α → β → γ} {xs : List α} {ys : List β} {x : α} {z : γ}
    (h : (x, z) ∈ xs.zip (List.zipWith f xs ys)) : ∃ y, (x, y) ∈ xs.zip ys ∧ z = f x y := by
  induction xs generalizing ys with
  | nil => simp at h
  | cons x' xs ih =>
    cases ys with
    | nil => simp at h
    | cons y ys =>
      rw [List.zipWith_cons_cons, List.zip_cons_cons] at h
      rcases List.mem_cons.mp h with heq | h
      · obtain ⟨rfl, rfl⟩ := Prod.mk.inj heq
        exact ⟨y, List.mem_cons_self, rfl⟩
      · obtain ⟨y', hy', hz⟩ := ih h
        exact ⟨y', List.mem_cons_of_mem _ hy', hz⟩

/-- An item of the sublist that a test picks stands in the list, behind the items that the front of
the sublist was picked from. -/
theorem exists_of_filter_eq_append {p : α → Bool} {xs front back : List α} {x : α}
    (h : xs.filter p = front ++ x :: back) :
    ∃ before after, xs = before ++ x :: after ∧ before.filter p = front ∧ p x = true := by
  obtain ⟨before, rest, rfl, hfront, hrest⟩ := List.filter_eq_append_iff.mp h
  obtain ⟨between, after, rfl, hbetween, hx, -⟩ := List.filter_eq_cons_iff.mp hrest
  refine ⟨before ++ between, after, (List.append_assoc _ _ _).symm, ?_, hx⟩
  rw [List.filter_append, hfront, List.filter_eq_nil_iff.mpr hbetween, List.append_nil]

/-- Two relations one after the other, for the items of lists. -/
theorem forall₂_comp {α β γ : Type} {R : α → β → Prop} {S : β → γ → Prop} {xs : List α}
    {zs : List γ} :
    (∃ ys, List.Forall₂ R xs ys ∧ List.Forall₂ S ys zs)
      ↔ List.Forall₂ (fun x z => ∃ y, R x y ∧ S y z) xs zs := by
  constructor
  · rintro ⟨ys, hxy, hyz⟩
    induction hxy generalizing zs with
    | nil =>
      cases hyz
      exact .nil
    | cons hx _ ih =>
      obtain ⟨z, zs', hz, hzs, rfl⟩ := List.forall₂_cons_left_iff.mp hyz
      exact .cons ⟨_, hx, hz⟩ (ih hzs)
  · intro h
    induction h with
    | nil => exact ⟨[], .nil, .nil⟩
    | cons hx _ ih =>
      obtain ⟨y, hxy, hyz⟩ := hx
      obtain ⟨ys, hxs, hzs⟩ := ih
      exact ⟨y :: ys, .cons hxy hxs, .cons hyz hzs⟩

end ConfigBinding
