import ConfigBinding.Proofs.Tree.Events
import ConfigBinding.Proofs.Tree.Walk
import ConfigBinding.Proofs.Value.Normal

/-!
# What a run of calls makes of a map

A map that was empty at first is changed by calls, some of which go down into the maps below it
(`Tree.Call`). Whatever a call does, it changes one key of one map (`Tree.Change`), at a path; on the
way there maps are entered, or made. A call that fails, or that finds nothing to change, does
nothing. So all that has happened is told by the changes that were made, one after the other
(`Run.made`), and from these a log can be kept for the map at each level (`Run.log`): of what was
stored, dropped, or entered at its keys, since it was made or stored as a whole.

The map at a level follows its log (`Shows`). This is kept by the edit of a path
(`Edits.shows`, an induction on the edit, at all levels at once), hence by a call, and hence by a run
(`lawful_run`).
-/

namespace ConfigBinding.Tree

/-! ## Calls -/

/-- A call on a map. -/
inductive Call where
  | insert (key : String) (v : Value)
  /-- Writes over the value that mutable access to a key gives. -/
  | overwrite (key : String) (v : Value)
  | remove (key : String)
  | insertComment (key text : String)
  | removeComment (key : String)
  | set (path : List String) (v : Value)
  | setComment (path : List String) (text : String)
  /-- Calls on the map that mutable access to a key gives. -/
  | within (key : String) (call : Call)

/-- What is done to one key of a map. -/
inductive Change where
  | put (v : Value)
  | drop
  | comment (text : String)
  | dropComment

/-- A change that was made, and the path at which it was made. -/
structure Made where
  path : List String
  change : Change

/-- The map after a call. -/
def Call.apply : Call → Tree → Tree
  | .insert key v, t => t.insert key v
  | .overwrite key v, t => t.replace key v
  | .remove key, t => t.erase key
  | .insertComment key text, t => t.insertComment key text
  | .removeComment key, t => t.eraseComment key
  | .set path v, t => (t.set path v).2
  | .setComment path text, t => (t.setComment path text).2
  | .within key call, t =>
    match t.sub? key with
    | some sub => t.insert key (.config (call.apply sub))
    | none => t

/-- The change that a call makes; none if it fails, or if mutable access gives nothing. -/
def Call.made : Call → Tree → Option Made
  | .insert key v, _ => some ⟨[key], .put v⟩
  | .overwrite key v, t => if t.contains key then some ⟨[key], .put v⟩ else none
  | .remove key, _ => some ⟨[key], .drop⟩
  | .insertComment key text, _ => some ⟨[key], .comment text⟩
  | .removeComment key, _ => some ⟨[key], .dropComment⟩
  | .set path v, t => (t.set path v).1.toOption.map fun _ => ⟨path, .put v⟩
  | .setComment path text, t => (t.setComment path text).1.toOption.map fun _ => ⟨path, .comment text⟩
  | .within key call, t =>
    (t.sub? key).bind fun sub => (call.made sub).map fun m => ⟨key :: m.path, m.change⟩

/-- The values that are stored are well-formed. -/
def Call.WellFormed : Call → Prop
  | .insert _ v | .overwrite _ v | .set _ v => v.WellFormed
  | .within _ call => call.WellFormed
  | _ => True

/-- A map, and the changes that have made it. -/
structure Run where
  tree : Tree
  made : List Made

/-- One call more. -/
def Run.step (s : Run) (call : Call) : Run :=
  ⟨call.apply s.tree, s.made ++ (call.made s.tree).toList⟩

/-- Calls on a map that is empty at first. -/
def run (calls : List Call) : Run := calls.foldl Run.step ⟨empty, []⟩

/-! ## Logs -/

/-- The map that some keys lead to. -/
def mapAt : List String → Tree → Option Tree
  | [], t => some t
  | key :: level, t => (t.sub? key).bind (mapAt level)

/-- What a change at a path is to the map at a level. -/
inductive Touch where
  /-- A key of the map is changed. -/
  | here (key : String)
  /-- The change is made below a key of the map. -/
  | below (key : String)
  /-- A key on the way to the map is changed, from which the rest of the level leads on. -/
  | above (rest : List String)
  /-- The map has nothing to do with it. -/
  | aside

/-- Where a path goes as seen from a level. -/
def touch : (path level : List String) → Touch
  | [], level => .above level
  | [key], [] => .here key
  | key :: _, [] => .below key
  | key :: path, k :: level => if k = key then touch path level else .aside

/-- What has happened to the entries and to the comments of a map. -/
structure Log where
  entries : List (Keyed.Event Value)
  comments : List (Keyed.Event String)

/-- The log of a map to which nothing has happened. -/
def Log.empty : Log := ⟨[], []⟩

/-- The log of a map that is stored as a whole. -/
def Log.ofTree (t : Tree) : Log := ⟨Keyed.puts t.entries, Keyed.puts t.comments⟩

/-- The log after a change. A map on the way to which something else is stored begins anew. -/
def Log.note (log : Log) : Touch → Change → Log
  | .here key, .put v => ⟨log.entries ++ [.put key v], log.comments⟩
  | .here key, .drop => ⟨log.entries ++ [.drop key], log.comments ++ [.drop key]⟩
  | .here key, .comment text => ⟨log.entries, log.comments ++ [.put key text]⟩
  | .here key, .dropComment => ⟨log.entries, log.comments ++ [.drop key]⟩
  | .below key, _ => ⟨log.entries ++ [.reach key], log.comments⟩
  | .above rest, .put v => (v.config?.bind (mapAt rest)).elim .empty .ofTree
  | .above _, .drop => .empty
  | .above _, .comment _ | .above _, .dropComment | .aside, _ => log

/-- The log of the map at a level. -/
def Run.log (s : Run) (level : List String) : Log :=
  s.made.foldl (fun log m => log.note (touch m.path level) m.change) .empty

/-- Entries and comments of a map follow its log, each for themselves. -/
structure Reflects (log : Log) (t : Tree) : Prop where
  /-- What is changed from within is a map. -/
  entries : Keyed.Follows (fun v => v.isConfig = true) log.entries t.entries
  /-- Comments are not changed from within. -/
  comments : Keyed.Follows (fun _ => False) log.comments t.comments

/-- What there is at a level follows the log; where there is no map, nothing has happened. -/
def Shows : Option Tree → Log → Prop
  | some t, log => Reflects log t
  | none, log => log = .empty

variable {t t' sub m : Tree} {key k : String} {v : Value} {level path rest : List String}
  {log : Log} {c : Change}

/-! ## Maps at levels -/

theorem mapAt_insert_self (t : Tree) (key : String) (v : Value) (level : List String) :
    (t.insert key v).mapAt (key :: level) = v.config?.bind (mapAt level) := by
  rw [mapAt, sub?, get?_insert_self, Option.bind_some]

theorem mapAt_insert_of_ne (h : k ≠ key) :
    (t.insert key v).mapAt (k :: level) = t.mapAt (k :: level) := by
  rw [mapAt, sub?_insert_of_ne h, mapAt]

theorem wellFormed_sub (ht : (Value.config t).WellFormed) (h : t.sub? key = some sub) :
    (Value.config sub).WellFormed :=
  ht.entry (p := (key, .config sub)) (Keyed.mem_of_get? (sub?_eq_some.mp h))

theorem wellFormed_mapAt (ht : (Value.config t).WellFormed) (h : t.mapAt level = some m) :
    (Value.config m).WellFormed := by
  induction level generalizing t with
  | nil =>
    obtain rfl := Option.some.inj h
    exact ht
  | cons key level ih =>
    obtain ⟨sub, hsub, hm⟩ := Option.bind_eq_some_iff.mp h
    exact ih (wellFormed_sub ht hsub) hm

/-! ## Changes -/

/-- The map after a change of one of its keys. -/
def Change.apply : Change → String → Tree → Tree
  | .put v, key, t => t.insert key v
  | .drop, key, t => t.erase key
  | .comment text, key, t => t.insertComment key text
  | .dropComment, key, t => t.eraseComment key

/-- The map after a change at a path, whatever the edit there returns. -/
def Made.Leads (m : Made) (t t' : Tree) : Prop :=
  ∃ (α : Type) (edit : String → Tree → α × Tree) (a : α),
    (∀ key t, (edit key t).2 = m.change.apply key t) ∧ Edits edit m.path t a t'

/-- The value that is stored, if any, is well-formed. -/
def Change.WellFormed : Change → Prop
  | .put v => v.WellFormed
  | _ => True

theorem Change.wellFormed_apply (hc : c.WellFormed) (ht : (Value.config t).WellFormed) :
    (Value.config (c.apply key t)).WellFormed := by
  obtain ⟨⟨hentries, hcomments⟩, hvalues⟩ := Value.wellFormed_config_iff.mp ht
  cases c with
  | put v => exact ht.insert key hc
  | drop =>
    refine Value.wellFormed_config_iff.mpr
      ⟨⟨Keyed.distinct_erase hentries key, Keyed.distinct_erase hcomments key⟩, fun p hp => ?_⟩
    have hp : p ∈ Keyed.erase t.entries key := hp
    rw [Keyed.erase_eq_filter hentries] at hp
    exact hvalues p (List.mem_filter.mp hp).1
  | comment text =>
    exact Value.wellFormed_config_iff.mpr
      ⟨⟨hentries, Keyed.distinct_insert hcomments key text⟩, hvalues⟩
  | dropComment =>
    exact Value.wellFormed_config_iff.mpr
      ⟨⟨hentries, Keyed.distinct_erase hcomments key⟩, hvalues⟩

/-- A change of a key leaves the maps below other keys. -/
theorem Change.mapAt_apply_of_ne (c : Change) (h : k ≠ key) :
    (c.apply key t).mapAt (k :: level) = t.mapAt (k :: level) := by
  cases c with
  | put v => exact mapAt_insert_of_ne h
  | drop =>
    have hget : (t.erase key).get? k = t.get? k := Keyed.get?_erase_of_ne t.entries h
    rw [Change.apply, mapAt, sub?, hget, mapAt, sub?]
  | comment | dropComment => rfl

theorem wellFormed_empty : (Value.config empty).WellFormed :=
  Value.wellFormed_config_iff.mpr ⟨⟨List.nodup_nil, List.nodup_nil⟩, nofun⟩

/-- The map that an edit goes on in is one of the tree, or an empty one. -/
theorem wellFormed_below (ht : (Value.config t).WellFormed) (h : t.below? key = some sub) :
    (Value.config sub).WellFormed := by
  rcases below?_eq_some.mp h with hsub | ⟨-, rfl⟩
  · exact wellFormed_sub ht hsub
  · exact wellFormed_empty

theorem touch_nil (hrest : rest ≠ []) : touch (key :: rest) [] = .below key := by
  obtain ⟨k, rest, rfl⟩ := List.exists_cons_of_ne_nil hrest
  rfl

/-! ## What follows the log -/

theorem Reflects.empty : Reflects .empty empty := ⟨.nil, .nil⟩

theorem reflects_ofTree (ht : (Value.config t).WellFormed) : Reflects (.ofTree t) t := by
  obtain ⟨hentries, hcomments⟩ := ht t .self
  exact ⟨Keyed.follows_puts hentries, Keyed.follows_puts hcomments⟩

/-- A change of a key is noted in the log of its map. -/
theorem Reflects.here (h : Reflects log t) (c : Change) (key : String) :
    Reflects (log.note (.here key) c) (c.apply key t) := by
  obtain ⟨hentries, hcomments⟩ := h
  cases c with
  | put v => exact ⟨hentries.arrive (e := .put key v) rfl rfl, hcomments⟩
  | drop => exact ⟨hentries.drop key, hcomments.drop key⟩
  | comment text => exact ⟨hentries, hcomments.arrive (e := .put key text) rfl rfl⟩
  | dropComment => exact ⟨hentries, hcomments.drop key⟩

/-- So is a change below a key, which leaves a map there. -/
theorem Reflects.below (h : Reflects log t) (c : Change) (key : String) (sub : Tree) :
    Reflects (log.note (.below key) c) (t.insert key (.config sub)) :=
  ⟨h.entries.arrive (e := .reach key) rfl ⟨_, rfl, rfl⟩, h.comments⟩

/-- Where there was no map, an empty one is as good. -/
theorem Shows.below (h : Shows (t.mapAt (key :: level)) log) (hsub : t.below? key = some sub) :
    Shows (sub.mapAt level) log := by
  rcases below?_eq_some.mp hsub with hsome | ⟨habsent, rfl⟩
  · rwa [mapAt, hsome] at h
  · rw [mapAt, sub?, habsent] at h
    obtain rfl : log = .empty := h
    cases level with
    | nil => exact .empty
    | cons k level => exact rfl

/-- What is found in a value that was stored as a whole. -/
theorem shows_inside (hv : v.WellFormed) (rest : List String) :
    Shows (v.config?.bind (mapAt rest)) ((v.config?.bind (mapAt rest)).elim .empty .ofTree) := by
  cases hmap : v.config?.bind (mapAt rest) with
  | none => exact rfl
  | some m =>
    obtain ⟨t, ht, hm⟩ := Option.bind_eq_some_iff.mp hmap
    cases v with
    | config tree =>
      obtain rfl := Option.some.inj ht
      exact reflects_ofTree (wellFormed_mapAt hv hm)
    | _ => cases ht

/-- A change of a key on the way to a map. -/
theorem Shows.above (hc : c.WellFormed) (ht : (Value.config t).WellFormed)
    (h : Shows (t.mapAt (key :: rest)) log) :
    Shows ((c.apply key t).mapAt (key :: rest)) (log.note (.above rest) c) := by
  cases c with
  | put v =>
    rw [Change.apply, mapAt_insert_self]
    exact shows_inside hc rest
  | drop =>
    have hget : (t.erase key).get? key = none := Keyed.get?_erase_self ht.distinct key
    rw [Change.apply, mapAt, sub?, hget]
    exact rfl
  | comment | dropComment => exact h

section Edits

variable {α : Type} {edit : String → Tree → α × Tree} {a : α}

theorem Edits.wellFormed (hedit : ∀ key t, (edit key t).2 = c.apply key t) (hc : c.WellFormed)
    (h : Edits edit path t a t') (ht : (Value.config t).WellFormed) :
    (Value.config t').WellFormed := by
  induction h with
  | last key t =>
    rw [hedit]
    exact c.wellFormed_apply hc ht
  | behind hsub _ ih => exact ht.insert _ (ih (wellFormed_below ht hsub))

/-- A change at a path, as every level sees it. -/
theorem Edits.shows (hedit : ∀ key t, (edit key t).2 = c.apply key t) (hc : c.WellFormed)
    (h : Edits edit path t a t') (ht : (Value.config t).WellFormed)
    (hlog : Shows (t.mapAt level) log) :
    Shows (t'.mapAt level) (log.note (touch path level) c) := by
  induction h generalizing level log with
  | last key t =>
    rw [hedit]
    cases level with
    | nil => exact Reflects.here hlog c key
    | cons k level =>
      by_cases hk : k = key
      · subst hk
        rw [touch, if_pos rfl, touch]
        exact hlog.above hc ht
      · rw [touch, if_neg hk, c.mapAt_apply_of_ne hk]
        exact hlog
  | @behind key rest t sub sub' a hsub h ih =>
    cases level with
    | nil =>
      have htouch : touch (key :: rest) [] = .below key := touch_nil h.ne_nil
      rw [htouch]
      exact Reflects.below hlog c key sub'
    | cons k level =>
      by_cases hk : k = key
      · subst hk
        rw [touch, if_pos rfl, mapAt_insert_self]
        exact ih (wellFormed_below ht hsub) (hlog.below hsub)
      · rw [touch, if_neg hk, mapAt_insert_of_ne hk]
        exact hlog

/-- An edit of a key of the map at a level. -/
theorem Edits.mapAt (h : Edits edit (level ++ [key]) t a t') (hm : t.mapAt level = some m) :
    t'.mapAt level = some (edit key m).2 := by
  induction level generalizing t t' with
  | nil =>
    obtain rfl := Option.some.inj hm
    cases h with
    | last => rfl
    | behind hsub h => exact absurd rfl h.ne_nil
  | cons k level ih =>
    rw [List.cons_append] at h
    generalize hrest : level ++ [key] = rest at h
    cases h with
    | last => exact absurd hrest (List.append_ne_nil_of_right_ne_nil _ (List.cons_ne_nil _ _))
    | @behind _ _ _ sub sub' _ hsub h =>
      subst hrest
      obtain ⟨sub₀, hsub₀, hm⟩ := Option.bind_eq_some_iff.mp hm
      obtain rfl : sub = sub₀ :=
        Option.some.inj (hsub.symm.trans (below?_eq_some.mpr (.inl hsub₀)))
      rw [mapAt_insert_self]
      exact ih h hm

end Edits

/-! ## Runs -/

theorem Made.leads_last (c : Change) (key : String) (t : Tree) :
    Made.Leads ⟨[key], c⟩ t (c.apply key t) :=
  ⟨Unit, fun key t => ((), c.apply key t), (), fun _ _ => rfl, .last key t⟩

/-- A call makes no change and does nothing, or it does the change that it makes. -/
theorem Call.made_cases (call : Call) (t : Tree) :
    call.made t = none ∧ call.apply t = t
      ∨ ∃ m, call.made t = some m ∧ (call.WellFormed → m.change.WellFormed)
        ∧ m.Leads t (call.apply t) := by
  induction call generalizing t with
  | insert => exact .inr ⟨_, rfl, id, Made.leads_last _ _ t⟩
  | remove | insertComment | removeComment =>
    exact .inr ⟨_, rfl, fun _ => trivial, Made.leads_last _ _ t⟩
  | overwrite key v =>
    by_cases hcontains : t.contains key = true
    · refine .inr ⟨⟨[key], .put v⟩, if_pos hcontains, id, ?_⟩
      rw [apply, replace, if_pos hcontains]
      exact Made.leads_last _ _ t
    · exact .inl ⟨if_neg hcontains, if_neg hcontains⟩
  | set path v =>
    cases hset : (t.set path v).1 with
    | error e => exact .inl ⟨by rw [made, hset]; rfl, set_unchanged (Prod.ext hset rfl)⟩
    | ok old =>
      exact .inr ⟨⟨path, .put v⟩, by rw [made, hset]; rfl, id,
        _, exchange v, old, fun _ _ => rfl, set_eq_ok.mp (Prod.ext hset rfl)⟩
  | setComment path text =>
    cases hset : (t.setComment path text).1 with
    | error e => exact .inl ⟨by rw [made, hset]; rfl, setComment_unchanged (Prod.ext hset rfl)⟩
    | ok old =>
      exact .inr ⟨⟨path, .comment text⟩, by rw [made, hset]; rfl, fun _ => trivial,
        _, exchangeComment text, old, fun _ _ => rfl, setComment_eq_ok.mp (Prod.ext hset rfl)⟩
  | within key call ih =>
    cases hsub : t.sub? key with
    | none => exact .inl ⟨by simp [made, hsub], by simp [apply, hsub]⟩
    | some sub =>
      have happly : (Call.within key call).apply t = t.insert key (.config (call.apply sub)) := by
        simp [apply, hsub]
      rw [happly]
      rcases ih sub with ⟨hnone, hsame⟩ | ⟨m, hm, hwell, α, edit, a, hedit, hedits⟩
      · refine .inl ⟨by simp [made, hsub, hnone], ?_⟩
        rw [hsame]
        exact insert_of_get? (sub?_eq_some.mp hsub)
      · refine .inr ⟨⟨key :: m.path, m.change⟩, by simp [made, hsub, hm], hwell, ?_⟩
        exact ⟨α, edit, a, hedit, .behind (below?_eq_some.mpr (.inl hsub)) hedits⟩

/-- What every step keeps: the map is well-formed, and at each level it shows the log. -/
structure Run.Sound (s : Run) : Prop where
  wellFormed : (Value.config s.tree).WellFormed
  shows : ∀ level, Shows (s.tree.mapAt level) (s.log level)

theorem Run.sound_start : Run.Sound ⟨empty, []⟩ where
  wellFormed := wellFormed_empty
  shows level := by
    cases level with
    | nil => exact .empty
    | cons => exact rfl

theorem Run.Sound.step {s : Run} (h : s.Sound) {call : Call} (hcall : call.WellFormed) :
    (s.step call).Sound := by
  rcases call.made_cases s.tree with ⟨hnone, hsame⟩ | ⟨m, hm, hwell, α, edit, a, hedit, hedits⟩
  · have hstep : s.step call = s := by
      rw [Run.step, hnone, hsame, Option.toList_none, List.append_nil]
    rwa [hstep]
  · refine ⟨hedits.wellFormed hedit (hwell hcall) h.wellFormed, fun level => ?_⟩
    have hlog : (s.step call).log level
        = (s.log level).note (touch m.path level) m.change := by
      simp [Run.log, Run.step, hm]
    rw [hlog]
    exact hedits.shows hedit (hwell hcall) h.wellFormed (h.shows level)

theorem sound_run {calls : List Call} (h : ∀ call ∈ calls, call.WellFormed) : (run calls).Sound := by
  induction calls using List.reverseRecOn with
  | nil => exact Run.sound_start
  | append_singleton calls call ih =>
    obtain ⟨hcalls, hcall⟩ := List.forall_mem_append.mp h
    rw [run, List.foldl_concat]
    exact (ih hcalls).step (hcall call List.mem_cons_self)

/-- What holds of a map after a run of calls. -/
structure Run.Lawful (s : Run) : Prop where
  /-- No map has a key twice, among its entries or among its comments, at any depth. -/
  wellFormed : (Value.config s.tree).WellFormed
  /-- At each level, entries and comments follow what has happened to them. -/
  follows : ∀ level m, s.tree.mapAt level = some m → Reflects (s.log level) m
  /-- A key that is written over keeps its position and its comment, and so do all others. -/
  overwrite : ∀ (call : Call) level key v m, call.made s.tree = some ⟨level ++ [key], .put v⟩ →
    s.tree.mapAt level = some m → key ∈ m.keys → (s.step call).tree.mapAt level
      = some ⟨m.entries.map fun p => if p.1 = key then (key, v) else p, m.comments⟩
  /-- What is removed is the entry and the comment of the key, and nothing else moves. -/
  remove : ∀ (call : Call) level key m, call.made s.tree = some ⟨level ++ [key], .drop⟩ →
    s.tree.mapAt level = some m → (s.step call).tree.mapAt level
      = some ⟨m.entries.filter fun p => p.1 ≠ key, m.comments.filter fun p => p.1 ≠ key⟩

/-- The change that a call makes is made to the map at its level. -/
theorem Call.mapAt_apply {call : Call} (h : call.made t = some ⟨level ++ [key], c⟩)
    (hm : t.mapAt level = some m) : (call.apply t).mapAt level = some (c.apply key m) := by
  rcases call.made_cases t with ⟨hnone, -⟩ | ⟨_, hmade, -, α, edit, a, hedit, hedits⟩
  · rw [hnone] at h
    cases h
  · obtain rfl := Option.some.inj (hmade.symm.trans h)
    rw [Edits.mapAt hedits hm, hedit]

/-- Maps keep their laws through every run of calls. -/
theorem lawful_run {calls : List Call} (h : ∀ call ∈ calls, call.WellFormed) :
    (run calls).Lawful := by
  obtain ⟨hwell, hshows⟩ := sound_run h
  refine ⟨hwell, fun level m hm => ?_, fun call level key v m hmade hm hkey => ?_,
    fun call level key m hmade hm => ?_⟩
  · have hshow := hshows level
    rwa [hm] at hshow
  · obtain ⟨hentries, -⟩ := wellFormed_mapAt hwell hm m .self
    refine (Call.mapAt_apply hmade hm).trans ?_
    rw [Change.apply, insert, Keyed.insert_eq_map hentries hkey]
  · obtain ⟨hentries, hcomments⟩ := wellFormed_mapAt hwell hm m .self
    refine (Call.mapAt_apply hmade hm).trans ?_
    rw [Change.apply, erase, Keyed.erase_eq_filter hentries, Keyed.erase_eq_filter hcomments]

namespace Example

/-- Calls that go down into maps, write over keys, and remove keys of which one comes back; the call
that would go down below a number fails. -/
def calls : List Call :=
  [.insert "host" (.string "a"),
    .insert "limits" (.config ⟨[("low", .null)], [("low", "none yet")]⟩),
    .setComment ["host"] "where to",
    .set ["paths", "log"] (.string "/var"),
    .set ["limits", "high"] (.number (.integer 8)),
    .insert "port" (.number (.integer 1)),
    .remove "host",
    .insert "host" (.string "b"),
    .within "limits" (.overwrite "low" (.number (.integer 2))),
    .set ["port", "number"] .null,
    .overwrite "port" (.number (.integer 3)),
    .insertComment "port" "of the host"]

/-- The key that comes back stands last and has no comment; maps are written in where they are. -/
theorem lawful_calls : (∀ call ∈ calls, call.WellFormed) ∧ (run calls).Lawful
    ∧ (run calls).tree.keys = ["limits", "paths", "port", "host"]
    ∧ (run calls).tree.comments = [("port", "of the host")]
    ∧ (mapAt ["limits"] (run calls).tree).map keys = some ["low", "high"] := by
  have hwell : ∀ call ∈ calls, call.WellFormed := by
    simp only [calls, List.forall_mem_cons, Call.WellFormed, Value.wellFormed_config_iff]
    refine ⟨nofun, ⟨?_, nofun, nofun⟩, trivial, nofun, nofun, nofun, trivial, nofun, nofun, nofun,
      nofun, trivial, nofun⟩
    simp [Keyed.Distinct, Keyed.keys]
  exact ⟨hwell, lawful_run hwell, rfl, rfl, rfl⟩

end Example

end ConfigBinding.Tree
