import ConfigBinding.Proofs.Sequence
import ConfigBinding.Tree.Store

/-!
# Walks along a path

An edit at a path goes down through the maps, makes the ones that are missing, and only at the end
finds out whether it may edit. Still it leaves nothing behind when it fails
(`Tree.editAt_unchanged`): below a map that was just made nothing can stand in the way.

A successful edit is a rebuilding of the maps on the way (`Tree.Edits`, one case for the last key
and one for each key before it). What it does is told by what can be read at another path, whatever
is read there (`Tree.IsLocal`): at the path itself and below it the walk counts for nothing
(`Edits.readAt_append`), and beside the path nothing changes (`Edits.readAt_of_beside`). On the way
the edit goes on from one map to the next (`Edits.on_the_way`), and no comment changes
(`Edits.comment_on_the_way`).
-/

namespace ConfigBinding

/-! ## Paths that have to do with one another -/

/-- `d` lies on the way to a path: it is a proper prefix of the path, and not empty. -/
def OnTheWay (d path : List String) : Prop := d ≠ [] ∧ d <+: path ∧ d ≠ path

/-- Neither path is a prefix of the other. -/
def Beside (q path : List String) : Prop := ¬ q <+: path ∧ ¬ path <+: q

section Paths

variable {key other : String} {d q path rest : List String}

/-- Induction along a path: its last key stands apart from those that lead below. -/
@[elab_as_elim]
theorem path_induction {motive : List String → Prop} (nil : motive [])
    (last : ∀ key, motive [key])
    (behind : ∀ key rest, rest ≠ [] → motive rest → motive (key :: rest)) (path : List String) :
    motive path := by
  induction path with
  | nil => exact nil
  | cons key rest ih =>
    by_cases hrest : rest = []
    · exact hrest ▸ last key
    · exact behind key rest hrest ih

theorem onTheWay_iff : OnTheWay d path ↔ ∃ key rest, d ≠ [] ∧ path = d ++ key :: rest := by
  constructor
  · rintro ⟨hd, ⟨e, rfl⟩, hne⟩
    match e with
    | [] => exact absurd (List.append_nil d).symm hne
    | key :: rest => exact ⟨key, rest, hd, rfl⟩
  · rintro ⟨key, rest, hd, rfl⟩
    exact ⟨hd, List.prefix_append d _, by simp⟩

/-- On the way to a longer path lie its first key, and what lies on the way behind it. -/
theorem onTheWay_cons (hrest : rest ≠ []) :
    OnTheWay d (key :: rest) ↔ d = [key] ∨ ∃ e, d = key :: e ∧ OnTheWay e rest := by
  match d with
  | [] => simp [OnTheWay]
  | [other] => simp [OnTheWay, List.cons_prefix_cons, hrest.symm]
  | other :: k :: e =>
    simp only [OnTheWay, List.cons_prefix_cons, ne_eq, reduceCtorEq, not_false_eq_true, true_and,
      List.cons.injEq, and_false, false_or, not_and]
    constructor
    · rintro ⟨⟨rfl, hstart⟩, hne⟩
      exact ⟨_, ⟨rfl, rfl⟩, by simp, hstart, hne rfl⟩
    · rintro ⟨_, ⟨rfl, rfl⟩, -, hstart, hne⟩
      exact ⟨⟨rfl, hstart⟩, fun _ => hne⟩

theorem not_onTheWay_singleton : ¬ OnTheWay d [key] := by
  rintro ⟨hd, hstart, hne⟩
  exact hne (hstart.eq_of_length_le (List.length_pos_iff.mpr hd))

/-- Seen from a path, any path is empty, lies on the way, reaches at least as far, or lies
beside. -/
theorem path_cases (q path : List String) :
    q = [] ∨ OnTheWay q path ∨ (∃ r, q = path ++ r) ∨ Beside q path := by
  by_cases hq : q = []
  · exact .inl hq
  by_cases hbelow : path <+: q
  · obtain ⟨r, rfl⟩ := hbelow
    exact .inr (.inr (.inl ⟨r, rfl⟩))
  by_cases habove : q <+: path
  · exact .inr (.inl ⟨hq, habove, fun heq => hbelow (heq ▸ List.prefix_rfl)⟩)
  · exact .inr (.inr (.inr ⟨habove, hbelow⟩))

/-- A path beside a longer one starts with another key, or lies beside behind the same key. -/
theorem Beside.cases_cons (h : Beside q (key :: rest)) :
    ∃ other e, q = other :: e ∧ (other ≠ key ∨ other = key ∧ e ≠ [] ∧ Beside e rest) := by
  obtain ⟨habove, hbelow⟩ := h
  match q with
  | [] => exact absurd List.nil_prefix habove
  | other :: e =>
    refine ⟨other, e, rfl, ?_⟩
    by_cases hkey : other = key
    · subst hkey
      simp only [List.cons_prefix_cons, true_and] at habove hbelow
      exact .inr ⟨rfl, fun he => habove (he ▸ List.nil_prefix), habove, hbelow⟩
    · exact .inl hkey

end Paths

/-- Whether a value that is no map is there, the null marker included. -/
def Entry.obstructs : Entry → Bool
  | .absent => false
  | .null => true
  | .present v => !v.isConfig

theorem Entry.obstructs_of_iff {found : Option Value} :
    (Entry.of found).obstructs = true ↔ ∃ v, found = some v ∧ v.isConfig = false := by
  match found with
  | none => simp [Entry.of, obstructs]
  | some v => cases v <;> simp [Entry.of, obstructs, Value.isConfig]

/-- A value that is no map stands in the way to a path, or the path is empty. -/
def Store.Blocked {σ : Type} [Store σ] (s : σ) (path : List String) : Prop :=
  path = [] ∨ ∃ d, OnTheWay d path ∧ (Store.getRaw s d).obstructs = true

namespace Tree

variable {α β : Type} {edit : String → Tree → α × Tree} {read : Tree → String → Option β}
  {t t' sub sub' : Tree} {key other : String} {path rest q : List String} {v : Value} {a : α}

/-! ## Maps below maps -/

theorem get?_insert_self (t : Tree) (key : String) (v : Value) :
    (t.insert key v).get? key = some v := Keyed.get?_insert_self _ _ _

theorem get?_insert_of_ne (h : other ≠ key) : (t.insert key v).get? other = t.get? other :=
  Keyed.get?_insert_of_ne _ _ h

theorem sub?_eq_some : t.sub? key = some sub ↔ t.get? key = some (.config sub) := by
  simp only [sub?, Option.bind_eq_some_iff]
  constructor
  · rintro ⟨v, hget, hconfig⟩
    cases v with
    | config tree => rw [hget, ← Option.some.inj hconfig]
    | _ => cases hconfig
  · exact fun hget => ⟨_, hget, rfl⟩

@[simp] theorem sub?_insert_self (t : Tree) (key : String) (sub : Tree) :
    (t.insert key (.config sub)).sub? key = some sub :=
  sub?_eq_some.mpr (get?_insert_self _ _ _)

theorem sub?_insert_of_ne (h : other ≠ key) : (t.insert key v).sub? other = t.sub? other := by
  rw [sub?, sub?, get?_insert_of_ne h]

/-- Writing what a key holds changes nothing. -/
theorem insert_of_get? (h : t.get? key = some v) : t.insert key v = t := by
  obtain ⟨entries, comments⟩ := t
  exact congrArg (Tree.mk · comments) (Keyed.insert_of_get? h)

/-- The map that writing goes on with behind a key; it is made where there is no entry. -/
def below? (t : Tree) (key : String) : Option Tree := (t.withMap key).sub? key

theorem contains_eq (t : Tree) (key : String) : t.contains key = (t.get? key).isSome := rfl

theorem withMap_of_get? (h : t.get? key = some v) : t.withMap key = t := by
  rw [withMap, contains_eq, h, Option.isSome_some, if_pos rfl]

theorem withMap_of_absent (h : t.get? key = none) :
    t.withMap key = t.insert key (.config empty) := by
  rw [withMap, contains_eq, h, Option.isSome_none, if_neg Bool.false_ne_true]

theorem below?_eq_some :
    t.below? key = some sub ↔ t.sub? key = some sub ∨ t.get? key = none ∧ empty = sub := by
  rw [below?]
  cases hget : t.get? key with
  | none =>
    rw [withMap_of_absent hget, sub?_insert_self, sub?_eq_some, hget]
    simp
  | some v => simp [withMap_of_get? hget]

/-- Writing stops at a key that holds something other than a map. -/
theorem below?_eq_none : t.below? key = none ↔ ∃ v, t.get? key = some v ∧ v.isConfig = false := by
  rw [below?]
  cases hget : t.get? key with
  | none => simp [withMap_of_absent hget]
  | some v =>
    rw [withMap_of_get? hget, sub?, hget]
    cases v <;> simp [Value.config?, Value.isConfig]

/-- The value that is written last stays, also behind a map that was made for it. -/
theorem insert_withMap (t : Tree) (key : String) (v : Value) :
    (t.withMap key).insert key v = t.insert key v := by
  cases hget : t.get? key with
  | none => rw [withMap_of_absent hget, insert, insert, Keyed.insert_insert_self]; rfl
  | some w => rw [withMap_of_get? hget]

/-! ## Reading -/

/-- A way to read at a key which finds nothing in an empty map, and which does not look at the
entries of other keys. -/
structure IsLocal (read : Tree → String → Option β) : Prop where
  empty : ∀ key, read empty key = none
  insert_of_ne : ∀ (t : Tree) {key other : String} (v : Value), other ≠ key →
    read (t.insert key v) other = read t other

theorem isLocal_get? : IsLocal get? := ⟨fun _ => rfl, fun _ _ _ _ h => get?_insert_of_ne h⟩

theorem isLocal_comment? : IsLocal comment? := ⟨fun _ => rfl, fun _ _ _ _ _ => rfl⟩

theorem readAt_cons (hrest : rest ≠ []) :
    readAt read (key :: rest) t = (t.sub? key).bind (readAt read rest) := by
  match rest with
  | [] => exact absurd rfl hrest
  | _ :: _ => rfl

theorem readAt_empty (hread : IsLocal read) (path : List String) :
    readAt read path empty = none := by
  match path with
  | [] => rfl
  | [key] => exact hread.empty key
  | key :: k :: rest => rfl

/-- Writing under a key leaves what is read at paths that start with another one. -/
theorem readAt_insert_of_ne (hread : IsLocal read) (h : other ≠ key) :
    readAt read (other :: rest) (t.insert key v) = readAt read (other :: rest) t := by
  match rest with
  | [] => exact hread.insert_of_ne t v h
  | k :: rest =>
    have hrest : k :: rest ≠ [] := List.cons_ne_nil k rest
    rw [readAt_cons hrest, readAt_cons hrest, sub?_insert_of_ne h]

/-- Behind a key that holds a map, reading goes on in that map. -/
theorem readAt_insert_config (hrest : rest ≠ []) :
    readAt read (key :: rest) (t.insert key (.config sub)) = readAt read rest sub := by
  rw [readAt_cons hrest, sub?_insert_self, Option.bind_some]

/-- What is read behind a key is what is read in the map with which writing goes on there. -/
theorem readAt_below (hread : IsLocal read) (hsub : t.below? key = some sub) (hrest : rest ≠ []) :
    readAt read (key :: rest) t = readAt read rest sub := by
  rw [readAt_cons hrest]
  rcases below?_eq_some.mp hsub with hsome | ⟨habsent, rfl⟩
  · rw [hsome, Option.bind_some]
  · rw [sub?, habsent, readAt_empty hread]
    rfl

/-! ## Edits that succeed -/

theorem editAt_cons (hrest : rest ≠ []) :
    editAt edit (key :: rest) t = match t.below? key with
      | none => (.error (.notConfig key), t.withMap key)
      | some sub =>
        ((editAt edit rest sub).1, t.insert key (.config (editAt edit rest sub).2)) := by
  match rest with
  | [] => exact absurd rfl hrest
  | k :: rest =>
    rw [editAt, below?]
    · cases (t.withMap key).sub? key with
      | none => rfl
      | some sub => simp only [insert_withMap]
    · exact nofun

/-- What an edit at a path does when it arrives. -/
inductive Edits (edit : String → Tree → α × Tree) : List String → Tree → α → Tree → Prop
  /-- At the last key the map is edited. -/
  | last (key : String) (t : Tree) : Edits edit [key] t (edit key t).1 (edit key t).2
  /-- Behind another key the edit goes on, in a map that is there or one that is made. -/
  | behind {key : String} {rest : List String} {t sub sub' : Tree} {a : α}
    (hsub : t.below? key = some sub) (h : Edits edit rest sub a sub') :
    Edits edit (key :: rest) t a (t.insert key (.config sub'))

theorem Edits.ne_nil (h : Edits edit path t a t') : path ≠ [] := by
  cases h <;> exact nofun

/-- An edit that returns has arrived. -/
theorem editAt_eq_ok : editAt edit path t = (.ok a, t') ↔ Edits edit path t a t' := by
  constructor
  · intro h
    induction path using path_induction generalizing t t' with
    | nil => cases h
    | last key =>
      cases h
      exact .last key t
    | behind key rest hrest ih =>
      rw [editAt_cons hrest] at h
      split at h
      · cases h
      · rename_i sub hsub
        obtain ⟨hok, rfl⟩ := Prod.mk.inj h
        exact .behind hsub (ih (Prod.ext hok rfl))
  · intro h
    induction h with
    | last key t => rfl
    | behind hsub h ih => simp only [editAt_cons h.ne_nil, hsub, ih]

namespace Edits

/-- At the path itself and below it, reading comes to reading at one key of a map, before and after
the map was edited; the map is the same for whatever is read. -/
theorem readAt_append (h : Edits edit path t a t') : ∃ key s, a = (edit key s).1 ∧
    ∀ {β : Type} {read : Tree → String → Option β}, IsLocal read → ∀ r,
      readAt read (path ++ r) t = readAt read (key :: r) s
        ∧ readAt read (path ++ r) t' = readAt read (key :: r) (edit key s).2 := by
  induction h with
  | last key t => exact ⟨key, t, rfl, fun _ _ => ⟨rfl, rfl⟩⟩
  | @behind key rest t sub sub' a hsub h ih =>
    obtain ⟨key', s, ha, hreads⟩ := ih
    refine ⟨key', s, ha, fun hread r => ?_⟩
    have hrest : rest ++ r ≠ [] := List.append_ne_nil_of_left_ne_nil h.ne_nil r
    obtain ⟨hbefore, hafter⟩ := hreads hread r
    exact ⟨(readAt_below hread hsub hrest).trans hbefore,
      (readAt_insert_config hrest).trans hafter⟩

/-- Beside the path nothing changes, if the edit changes nothing at other keys. -/
theorem readAt_of_beside (hread : IsLocal read)
    (hedit : ∀ (key : String) (s : Tree) (other : String) (rest : List String), other ≠ key →
      readAt read (other :: rest) (edit key s).2 = readAt read (other :: rest) s)
    (h : Edits edit path t a t') (hq : Beside q path) : readAt read q t' = readAt read q t := by
  induction h generalizing q with
  | last key t =>
    obtain ⟨other, e, rfl, hne | ⟨-, he, hbeside⟩⟩ := hq.cases_cons
    · exact hedit key t other e hne
    · exact absurd List.nil_prefix hbeside.2
  | @behind key rest t sub sub' a hsub h ih =>
    obtain ⟨other, e, rfl, hne | ⟨rfl, he, hbeside⟩⟩ := hq.cases_cons
    · exact readAt_insert_of_ne hread hne
    · calc readAt read (other :: e) (t.insert other (.config sub'))
          = readAt read e sub' := readAt_insert_config he
        _ = readAt read e sub := ih hbeside
        _ = readAt read (other :: e) t := (readAt_below hread hsub he).symm

/-- On the way, the edit goes on from a map that is there or one that is made. -/
theorem on_the_way {d e : List String} (hd : d ≠ []) (he : e ≠ [])
    (h : Edits edit (d ++ e) t a t') : ∃ s s',
      (lookup? d t = some (.config s) ∨ lookup? d t = none ∧ empty = s)
        ∧ Edits edit e s a s' ∧ lookup? d t' = some (.config s') := by
  induction d generalizing t t' with
  | nil => exact absurd rfl hd
  | cons key d ih =>
    rw [List.cons_append] at h
    generalize hrest' : d ++ e = rest at h
    cases h with
    | last => exact absurd (List.append_eq_nil_iff.mp hrest').2 he
    | @behind _ _ _ sub sub' _ hsub h =>
      subst hrest'
      by_cases hrest : d = []
      · subst hrest
        refine ⟨sub, sub', ?_, h, get?_insert_self _ _ _⟩
        exact (below?_eq_some.mp hsub).imp_left sub?_eq_some.mp
      · obtain ⟨s, s', hbefore, hedits, hafter⟩ := ih hrest h
        have hlookup : lookup? (key :: d) t = lookup? d sub :=
          readAt_below isLocal_get? hsub hrest
        refine ⟨s, s', hlookup ▸ hbefore, hedits, ?_⟩
        exact (readAt_insert_config hrest).trans hafter

/-- On the way no comment changes: maps that are made have none. -/
theorem comment_on_the_way (h : Edits edit path t a t') (hq : OnTheWay q path) :
    lookupComment? q t' = lookupComment? q t := by
  induction h generalizing q with
  | last key t => exact absurd hq not_onTheWay_singleton
  | @behind key rest t sub sub' a hsub h ih =>
    rcases (onTheWay_cons h.ne_nil).mp hq with rfl | ⟨e, rfl, he⟩
    · rfl
    · calc lookupComment? (key :: e) (t.insert key (.config sub'))
          = lookupComment? e sub' := readAt_insert_config he.1
        _ = lookupComment? e sub := ih he
        _ = lookupComment? (key :: e) t := (readAt_below isLocal_comment? hsub he.1).symm

end Edits

/-! ## Edits that fail -/

/-- In an empty map nothing stands in the way. -/
theorem exists_edits_empty (edit : String → Tree → α × Tree) (hpath : path ≠ []) :
    ∃ a t', Edits edit path empty a t' := by
  induction path using path_induction with
  | nil => exact absurd rfl hpath
  | last key => exact ⟨_, _, .last key empty⟩
  | behind key rest hrest ih =>
    obtain ⟨a, sub, h⟩ := ih hrest
    exact ⟨a, _, .behind (below?_eq_some.mpr (.inr ⟨rfl, rfl⟩)) h⟩

/-- An edit that fails leaves nothing behind: what stands in its way was there, so all maps before
it were there, too. -/
theorem editAt_unchanged {fault : PathFault} (h : editAt edit path t = (.error fault, t')) :
    t' = t := by
  induction path using path_induction generalizing t t' with
  | nil => exact (Prod.mk.inj h).2.symm
  | last key => cases h
  | behind key rest hrest ih =>
    rw [editAt_cons hrest] at h
    split at h
    · rename_i hstop
      obtain ⟨v, hget, -⟩ := below?_eq_none.mp hstop
      rw [withMap_of_get? hget] at h
      exact (Prod.mk.inj h).2.symm
    · rename_i sub hsub
      obtain ⟨herror, rfl⟩ := Prod.mk.inj h
      have hsame : (editAt edit rest sub).2 = sub := ih (Prod.ext herror rfl)
      rw [hsame]
      rcases below?_eq_some.mp hsub with hsome | ⟨-, rfl⟩
      · exact insert_of_get? (sub?_eq_some.mp hsome)
      · -- the map was made for this walk, which then cannot have failed below it
        obtain ⟨a, s, hedits⟩ := exists_edits_empty edit hrest
        rw [editAt_eq_ok.mpr hedits] at herror
        cases herror

/-- Nothing stands in the way to a single key. -/
theorem not_blocked_singleton : ¬ Store.Blocked t [key] := by
  rintro (hnil | ⟨d, hd, -⟩)
  · cases hnil
  · exact not_onTheWay_singleton hd

/-- What stands in the way to a longer path stands at its first key or behind it. -/
theorem blocked_cons (hrest : rest ≠ []) : Store.Blocked t (key :: rest) ↔
    t.below? key = none ∨ ∃ sub, t.below? key = some sub ∧ Store.Blocked sub rest := by
  have hsplit : Store.Blocked t (key :: rest) ↔ t.below? key = none
      ∨ ∃ e, OnTheWay e rest ∧ (Store.getRaw t (key :: e)).obstructs = true := by
    simp only [Store.Blocked, onTheWay_cons hrest, reduceCtorEq, false_or]
    rw [below?_eq_none, ← Entry.obstructs_of_iff]
    constructor
    · rintro ⟨d, rfl | ⟨e, rfl, he⟩, hobstructs⟩
      · exact .inl hobstructs
      · exact .inr ⟨e, he, hobstructs⟩
    · rintro (hobstructs | ⟨e, he, hobstructs⟩)
      · exact ⟨[key], .inl rfl, hobstructs⟩
      · exact ⟨key :: e, .inr ⟨e, rfl, he⟩, hobstructs⟩
  rw [hsplit]
  cases hsub : t.below? key with
  | none => simp
  | some sub =>
    simp only [reduceCtorEq, false_or, Option.some.injEq, exists_eq_left', Store.Blocked, hrest]
    refine exists_congr fun e => and_congr_right fun he => ?_
    have hlookup : lookup? (key :: e) t = lookup? e sub := readAt_below isLocal_get? hsub he.1
    show (Entry.of (lookup? (key :: e) t)).obstructs = true ↔ _
    rw [hlookup]
    rfl

/-- An edit fails exactly if something stands in its way. -/
theorem editAt_fails_iff :
    (∃ fault, (editAt edit path t).1 = .error fault) ↔ Store.Blocked t path := by
  induction path using path_induction generalizing t with
  | nil => exact iff_of_true ⟨_, rfl⟩ (.inl rfl)
  | last key => exact iff_of_false nofun not_blocked_singleton
  | behind key rest hrest ih =>
    rw [editAt_cons hrest, blocked_cons hrest]
    cases t.below? key with
    | none => simp
    | some sub => simpa using ih

/-! ## Steps on a tree -/

theorem outcome_eq_ok {x : Except PathFault α × Tree} :
    outcome path x = (.ok a, t') ↔ x = (.ok a, t') := by
  obtain ⟨r, t⟩ := x
  cases r <;> simp [outcome, Except.mapError]

theorem outcome_eq_error {x : Except PathFault α × Tree} {e : Error} :
    outcome path x = (.error e, t') ↔ ∃ fault, x = (.error fault, t') ∧ .ofPath path fault = e := by
  obtain ⟨r, t⟩ := x
  cases r with
  | ok a => simp [outcome, Except.mapError]
  | error fault => simp [outcome, Except.mapError, and_comm]

/-- The path counts for the text of an error only. -/
theorem toOption_outcome (path : List String) (x : Except PathFault α × Tree) :
    (outcome path x).1.toOption = x.1.toOption := by
  obtain ⟨r, t⟩ := x
  cases r <;> rfl

theorem set_eq_ok {old : Option Value} :
    t.set path v = (.ok old, t') ↔ Edits (exchange v) path t old t' :=
  outcome_eq_ok.trans editAt_eq_ok

theorem setComment_eq_ok {text : String} {old : Option String} :
    t.setComment path text = (.ok old, t') ↔ Edits (exchangeComment text) path t old t' :=
  outcome_eq_ok.trans editAt_eq_ok

theorem set_unchanged {e : Error} (h : t.set path v = (.error e, t')) : t' = t := by
  obtain ⟨fault, herror, -⟩ := outcome_eq_error.mp h
  exact editAt_unchanged herror

theorem setComment_unchanged {text : String} {e : Error}
    (h : t.setComment path text = (.error e, t')) : t' = t := by
  obtain ⟨fault, herror, -⟩ := outcome_eq_error.mp h
  exact editAt_unchanged herror

end Tree

end ConfigBinding
