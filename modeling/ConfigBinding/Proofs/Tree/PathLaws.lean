import ConfigBinding.Proofs.Tree.Agreement

/-!
# Laws of writing at paths

What a call of `set` or `setComment` does to a tree, told by what is seen at every path before and
after it. A call that succeeds returns what was there, puts the new value or comment in its place,
makes sure that there are maps on the way, and changes nothing else (`Store.WrittenAt`,
`Tree.CommentedAt`). A call fails exactly where something other than a map stands in its way, and
then it changes nothing at all (`Store.FailsCleanly`).

Comments and entries do not meet: writing a value touches no comment but those inside the value that
it replaces, so a comment stays until a map on the way to it is replaced
(`Tree.getComment_of_mem_setEach`).
-/

namespace ConfigBinding

/-- An entry tells what was looked up. -/
theorem Entry.of_injective : Function.Injective Entry.of := by
  intro found found' h
  match found, found' with
  | none, none => rfl
  | none, some v => cases v <;> cases h
  | some v, none => cases v <;> cases h
  | some v, some w => cases v <;> cases w <;> cases h <;> rfl

/-! ## Values at paths -/

/-- What is at a path inside a value; only a map has something inside. -/
def Value.entryAt (v : Value) (path : List String) : Entry :=
  Entry.of (v.config?.bind (Tree.lookup? path))

/-- What a call of `set` that returns `old` does to a store. -/
structure Store.WrittenAt {σ : Type} [Store σ] (s : σ) (path : List String) (v : Value)
    (old : Option Value) (s' : σ) : Prop where
  /-- The call returns what was stored at the path. -/
  returned : Store.getRaw s path = Entry.of old
  /-- The value is stored at the path. -/
  stored : Store.getRaw s' path = Entry.of (some v)
  /-- Below the path, there is what the value holds. -/
  inside : ∀ r, r ≠ [] → Store.getRaw s' (path ++ r) = v.entryAt r
  /-- On the way, there are maps. -/
  onTheWay : ∀ d, OnTheWay d path → ∃ sub, Store.getRaw s' d = .present (.config sub)
  /-- Beside the path, nothing changes. -/
  beside : ∀ q, Beside q path → Store.getRaw s' q = Store.getRaw s q
  /-- No comment changes but below the path. -/
  comments : ∀ q, ¬ OnTheWay path q → Store.getComment s' q = Store.getComment s q

namespace Tree

variable {t t' : Tree} {path q : List String} {v : Value} {old : Option Value}

/-- Reading behind a key that was just written is reading inside the value. -/
theorem lookup?_insert_self (s : Tree) (key : String) (v : Value) {r : List String} (hr : r ≠ []) :
    lookup? (key :: r) (s.insert key v) = v.config?.bind (lookup? r) := by
  rw [lookup?, readAt_cons hr, sub?, get?_insert_self]
  rfl

theorem readAt_exchange_of_ne {β : Type} {read : Tree → String → Option β} (hread : IsLocal read)
    (key : String) (s : Tree) (other : String) (rest : List String) (hne : other ≠ key) :
    readAt read (other :: rest) (exchange v key s).2 = readAt read (other :: rest) s :=
  readAt_insert_of_ne hread hne

theorem lookupComment?_of_edits_value (h : Edits (exchange v) path t old t')
    (hq : ¬ OnTheWay path q) : lookupComment? q t' = lookupComment? q t := by
  rcases path_cases q path with rfl | habove | ⟨r, rfl⟩ | hbeside
  · rfl
  · exact h.comment_on_the_way habove
  · -- only the path itself is left, whose comment stays beside the new entry
    have hr : r = [] := by
      by_contra hr
      exact hq ⟨h.ne_nil, List.prefix_append _ _, by simpa using hr⟩
    subst hr
    obtain ⟨key, s, -, hreads⟩ := h.readAt_append
    obtain ⟨hbefore, hafter⟩ := hreads isLocal_comment? []
    exact hafter.trans hbefore.symm
  · exact h.readAt_of_beside isLocal_comment? (readAt_exchange_of_ne isLocal_comment?) hbeside

theorem writtenAt_of_edits (h : Edits (exchange v) path t old t') :
    Store.WrittenAt t path v old t' := by
  obtain ⟨key, s, hold, hreads⟩ := h.readAt_append
  have hlookup := hreads isLocal_get?
  refine ⟨?_, ?_, ?_, ?_, ?_, fun q hq => lookupComment?_of_edits_value h hq⟩
  · have hbefore := (hlookup []).1
    rw [List.append_nil] at hbefore
    exact congrArg Entry.of (hbefore.trans hold.symm)
  · have hafter := (hlookup []).2
    rw [List.append_nil] at hafter
    exact congrArg Entry.of (hafter.trans (get?_insert_self s key v))
  · intro r hr
    exact congrArg Entry.of ((hlookup r).2.trans (lookup?_insert_self s key v hr))
  · intro d hd
    obtain ⟨next, rest, hne, rfl⟩ := onTheWay_iff.mp hd
    obtain ⟨_, s', -, -, hafter⟩ := h.on_the_way hne (List.cons_ne_nil next rest)
    exact ⟨s', congrArg Entry.of hafter⟩
  · intro q hq
    exact congrArg Entry.of
      (h.readAt_of_beside isLocal_get? (readAt_exchange_of_ne isLocal_get?) hq)

end Tree

namespace SortedTree

variable {s s' : SortedTree} {t : Tree} {path : List String} {v : Value} {old : Option Value}

/-- What holds of a tree holds of one with sorted keys that shows the same. -/
theorem writtenAt_of_set (h : s.set path v = (.ok old, s')) : Store.WrittenAt s path v old s' := by
  have hbefore : s.Agrees ⟨s.entries, []⟩ := s.agrees_entries
  obtain ⟨t', hset, hafter⟩ := hbefore.set_ok h
  have hwritten := Tree.writtenAt_of_edits (Tree.set_eq_ok.mp hset)
  refine ⟨?_, ?_, ?_, ?_, ?_, fun _ _ => rfl⟩
  · exact (hbefore.getRaw path).trans hwritten.returned
  · exact (hafter.getRaw path).trans hwritten.stored
  · exact fun r hr => (hafter.getRaw _).trans (hwritten.inside r hr)
  · intro d hd
    rw [hafter.getRaw d]
    exact hwritten.onTheWay d hd
  · intro q hq
    rw [hafter.getRaw q, hwritten.beside q hq, hbefore.getRaw q]

end SortedTree

/-- A call of `set` that succeeds returns what was there and stores the value, makes the maps on the
way, and changes nothing beside them; so with ordered keys and with sorted ones. -/
theorem Store.set_writtenAt (path : List String) (v : Value) (old : Option Value) :
    (∀ t t' : Tree, Store.set t path v = (.ok old, t') → Store.WrittenAt t path v old t')
      ∧ ∀ s s' : SortedTree, Store.set s path v = (.ok old, s') →
        Store.WrittenAt s path v old s' :=
  ⟨fun _ _ h => Tree.writtenAt_of_edits (Tree.set_eq_ok.mp h),
    fun _ _ h => SortedTree.writtenAt_of_set h⟩

namespace Example

/-- A tree with comments at the top and below it, and with a null marker. -/
def databaseTree : Tree :=
  ⟨[("name", .string "edge"), ("db", .config ⟨[("url", .null)], [("url", "Where it is")]⟩)],
    [("db", "The store")]⟩

/-- The tree with a map in place of the null marker. -/
def hostedTree : Tree :=
  ⟨[("name", .string "edge"), ("db", .config ⟨[("url", .config ⟨[("host", .string "a")], []⟩)],
    [("url", "Where it is")]⟩)], [("db", "The store")]⟩

/-- A map takes the place of the null marker, which is returned, and the comments stay; with sorted
keys the name comes last. -/
theorem set_writtenAt_hosted :
    Store.set databaseTree ["db", "url"] (.config ⟨[("host", .string "a")], []⟩)
        = (.ok (some .null), hostedTree)
      ∧ Store.WrittenAt databaseTree ["db", "url"] (.config ⟨[("host", .string "a")], []⟩)
        (some .null) hostedTree
      ∧ Store.set (SortedTree.ofPairs databaseTree.entries) ["db", "url"]
          (.config ⟨[("host", .string "a")], []⟩)
        = (.ok (some .null), SortedTree.ofPairs hostedTree.entries)
      ∧ Store.WrittenAt (SortedTree.ofPairs databaseTree.entries) ["db", "url"]
        (.config ⟨[("host", .string "a")], []⟩) (some .null)
        (SortedTree.ofPairs hostedTree.entries) := by
  have hset : Store.set databaseTree ["db", "url"] (.config ⟨[("host", .string "a")], []⟩)
      = (.ok (some .null), hostedTree) := rfl
  have hsorted : Store.set (SortedTree.ofPairs databaseTree.entries) ["db", "url"]
      (.config ⟨[("host", .string "a")], []⟩)
      = (.ok (some .null), SortedTree.ofPairs hostedTree.entries) := by rfl
  obtain ⟨hordered, hascending⟩ := Store.set_writtenAt ["db", "url"]
    (.config ⟨[("host", .string "a")], []⟩) (some .null)
  exact ⟨hset, hordered _ _ hset, hsorted, hascending _ _ hsorted⟩

end Example

/-! ## Calls that fail -/

/-- A step that fails exactly when something stands in the way to the path, and which changes
nothing when it fails. -/
structure Store.FailsCleanly {σ α : Type} [Store σ] (s : σ) (path : List String)
    (step : Result α × σ) : Prop where
  fails_iff : (∃ e, step.1 = .error e) ↔ Store.Blocked s path
  unchanged : ∀ e, step.1 = .error e → step.2 = s

namespace Tree

theorem failsCleanly {α : Type} (edit : String → Tree → α × Tree) (t : Tree) (path : List String) :
    Store.FailsCleanly t path (outcome path (editAt edit path t)) := by
  refine ⟨?_, fun e he => ?_⟩
  · have hfails : (∃ fault, (editAt edit path t).1 = .error fault) ↔ Store.Blocked t path :=
      editAt_fails_iff
    rw [← hfails, ← Result.toOption_eq_none, ← Result.toOption_eq_none, toOption_outcome]
  · obtain ⟨fault, herror, -⟩ := outcome_eq_error.mp (Prod.ext he rfl)
    exact editAt_unchanged herror

end Tree

theorem SortedTree.set_failsCleanly (s : SortedTree) (path : List String) (v : Value) :
    Store.FailsCleanly s path (s.set path v) := by
  have hagrees : s.Agrees ⟨s.entries, []⟩ := s.agrees_entries
  refine ⟨?_, fun e he => set_unchanged (Prod.ext he rfl)⟩
  have hblocked : Store.Blocked s path ↔ Store.Blocked (⟨s.entries, []⟩ : Tree) path := by
    simp only [Store.Blocked, hagrees.getRaw]
  have hfails : (∃ e, (s.set path v).1 = .error e)
      ↔ ∃ e, (Tree.set ⟨s.entries, []⟩ path v).1 = .error e := by
    have hreturned := (hagrees.set path v).1
    rw [← Result.toOption_eq_none, ← Result.toOption_eq_none, hreturned]
  rw [hblocked, hfails]
  exact (Tree.failsCleanly _ _ path).fails_iff

/-- Storing a value fails exactly when something other than a map stands in the way to the path, or
the path is empty, with ordered keys as with sorted ones; storing a comment fails under the same
condition. A call that fails leaves the tree as it was. -/
theorem Store.writes_failCleanly (path : List String) :
    (∀ (t : Tree) (v : Value), Store.FailsCleanly t path (Store.set t path v))
      ∧ (∀ (s : SortedTree) (v : Value), Store.FailsCleanly s path (Store.set s path v))
      ∧ ∀ (t : Tree) (text : String), Store.FailsCleanly t path (Store.setComment t path text) :=
  ⟨fun t v => t.failsCleanly (Tree.exchange v) path, fun s v => s.set_failsCleanly path v,
    fun t text => t.failsCleanly (Tree.exchangeComment text) path⟩

/-- The null marker stands in the way like any other value that is no map. -/
example : Store.set Example.databaseTree ["db", "url", "host"] (.string "a")
    = (.error (.ofPath ["db", "url", "host"] (.notConfig "url")), Example.databaseTree) := rfl

/-! ## Comments at paths -/

namespace Tree

/-- What a call of `setComment` that returns `old` does to a tree. -/
structure CommentedAt (t : Tree) (path : List String) (text : String) (old : Option String)
    (t' : Tree) : Prop where
  /-- The call returns the comment that was there. -/
  returned : Store.getComment t path = old
  /-- The comment is stored at the path. -/
  stored : Store.getComment t' path = some text
  /-- No other comment changes. -/
  comments : ∀ q, q ≠ path → Store.getComment t' q = Store.getComment t q
  /-- No entry changes but on the way. -/
  entries : ∀ q, ¬ OnTheWay q path → Store.getRaw t' q = Store.getRaw t q
  /-- A map on the way keeps its keys in their order; at most the next key comes behind them. -/
  extended : ∀ d key rest, d ≠ [] → path = d ++ key :: rest → ∀ sub,
    Store.getRaw t d = .present (.config sub) → ∃ sub',
      Store.getRaw t' d = .present (.config sub')
        ∧ (sub'.keys = sub.keys ∨ sub'.keys = sub.keys ++ [key])
  /-- A map that is made on the way holds nothing but the next one. -/
  made : ∀ d key rest, d ≠ [] → path = d ++ key :: rest →
    Store.getRaw t d = .absent → ∃ sub',
      Store.getRaw t' d = .present (.config sub')
        ∧ if rest = [] then sub'.entries = []
          else ∃ next, sub'.entries = [(key, .config next)]
  /-- The comment stays through calls of `set` that replace no map on the way. -/
  stays : ∀ calls : List (List String × Value), (∀ call ∈ calls, ¬ OnTheWay call.1 path) →
    ∀ step ∈ Store.setEach t' calls, Store.getComment step.2 path = some text

variable {t t' : Tree} {path q : List String} {text : String} {old : Option String}

/-- A call of `set` keeps a comment that is not below its path, whether or not it succeeds. -/
theorem getComment_set (t : Tree) (path : List String) (v : Value) (hq : ¬ OnTheWay path q) :
    Store.getComment (t.set path v).2 q = Store.getComment t q := by
  cases hset : t.set path v with
  | mk r t' =>
    cases r with
    | ok old => exact lookupComment?_of_edits_value (set_eq_ok.mp hset) hq
    | error e => rw [set_unchanged hset]

theorem getComment_of_mem_setEach {calls : List (List String × Value)}
    (hcalls : ∀ call ∈ calls, ¬ OnTheWay call.1 q) {step : Result (Option Value) × Tree}
    (hstep : step ∈ Store.setEach t calls) :
    Store.getComment step.2 q = Store.getComment t q := by
  induction calls generalizing t with
  | nil => cases hstep
  | cons call calls ih =>
    obtain ⟨hfirst, hrest⟩ := List.forall_mem_cons.mp hcalls
    have hkept := t.getComment_set call.1 call.2 hfirst
    rcases List.mem_cons.mp hstep with rfl | hlater
    · exact hkept
    · exact (ih hrest hlater).trans hkept

/-- Reading entries takes no notice of a comment that was stored. -/
theorem lookup?_insertComment (s : Tree) (key : String) (r : List String) :
    lookup? (key :: r) (s.insertComment key text) = lookup? (key :: r) s := by
  match r with
  | [] => rfl
  | _ :: _ => rfl

theorem readAt_exchangeComment_of_ne {β : Type} {read : Tree → String → Option β}
    (hread : ∀ (s : Tree) (key other : String), other ≠ key →
      read (s.insertComment key text) other = read s other)
    (key : String) (s : Tree) (other : String) (rest : List String) (hne : other ≠ key) :
    readAt read (other :: rest) (exchangeComment text key s).2 = readAt read (other :: rest) s := by
  match rest with
  | [] => exact hread s key other hne
  | _ :: _ => rfl

/-- Storing a comment puts at most one entry into the map where it starts, for the next map. -/
theorem entries_of_edits_comment {s s' : Tree} {key : String} {rest : List String}
    (h : Edits (exchangeComment text) (key :: rest) s old s') :
    if rest = [] then s'.entries = s.entries
    else ∃ next, s'.entries = Keyed.insert s.entries key (.config next) := by
  cases h with
  | last => rfl
  | @behind _ _ _ sub sub' _ hsub h =>
    rw [if_neg h.ne_nil]
    exact ⟨sub', rfl⟩

theorem keys_of_edits_comment {s s' : Tree} {key : String} {rest : List String}
    (h : Edits (exchangeComment text) (key :: rest) s old s') :
    s'.keys = s.keys ∨ s'.keys = s.keys ++ [key] := by
  have hentries := entries_of_edits_comment h
  by_cases hrest : rest = []
  · rw [if_pos hrest] at hentries
    exact .inl (congrArg Keyed.keys hentries)
  · rw [if_neg hrest] at hentries
    obtain ⟨next, hnext⟩ := hentries
    rw [keys, keys, hnext, Keyed.keys_insert]
    by_cases hkey : key ∈ Keyed.keys s.entries
    · exact .inl (if_pos hkey)
    · exact .inr (if_neg hkey)

/-- Storing a comment changes no entry but those that lead to its map. -/
theorem lookup?_of_edits_comment (h : Edits (exchangeComment text) path t old t')
    (hq : ¬ OnTheWay q path) : lookup? q t' = lookup? q t := by
  rcases path_cases q path with rfl | habove | ⟨r, rfl⟩ | hbeside
  · rfl
  · exact absurd habove hq
  · obtain ⟨key, s, -, hreads⟩ := h.readAt_append
    obtain ⟨hbefore, hafter⟩ := hreads isLocal_get? r
    exact hafter.trans ((lookup?_insertComment s key r).trans hbefore.symm)
  · exact h.readAt_of_beside isLocal_get?
      (readAt_exchangeComment_of_ne fun _ _ _ _ => rfl) hbeside

/-- Storing a comment changes no other comment. -/
theorem lookupComment?_of_edits_comment (h : Edits (exchangeComment text) path t old t')
    (hq : q ≠ path) : lookupComment? q t' = lookupComment? q t := by
  rcases path_cases q path with rfl | habove | ⟨r, rfl⟩ | hbeside
  · rfl
  · exact h.comment_on_the_way habove
  · obtain ⟨key, s, -, hreads⟩ := h.readAt_append
    obtain ⟨hbefore, hafter⟩ := hreads isLocal_comment? r
    match r with
    | [] => exact absurd (List.append_nil path) hq
    | _ :: _ => exact hafter.trans hbefore.symm
  · exact h.readAt_of_beside isLocal_comment?
      (readAt_exchangeComment_of_ne fun _ _ _ hne => Keyed.get?_insert_of_ne _ _ hne) hbeside

/-- A call of `setComment` that succeeds returns the comment that was there and stores the new one,
makes the maps on the way, and changes nothing else. The comment stays through later calls of `set`,
as long as they replace no map on the way to it. -/
theorem setComment_commentedAt (h : Store.setComment t path text = (.ok old, t')) :
    t.CommentedAt path text old t' := by
  have hedits : Edits (exchangeComment text) path t old t' := setComment_eq_ok.mp h
  obtain ⟨key, s, hold, hreads⟩ := hedits.readAt_append
  obtain ⟨hbefore, hafter⟩ := hreads isLocal_comment? []
  rw [List.append_nil] at hbefore hafter
  have hstored : Store.getComment t' path = some text :=
    hafter.trans (Keyed.get?_insert_self s.comments key text)
  refine ⟨hbefore.trans hold.symm, hstored, ?_, ?_, ?_, ?_, ?_⟩
  · exact fun q hq => lookupComment?_of_edits_comment hedits hq
  · exact fun q hq => congrArg Entry.of (lookup?_of_edits_comment hedits hq)
  · rintro d next rest hd rfl sub hsub
    obtain ⟨s, s', hfound, hrest, hthere⟩ := hedits.on_the_way hd (List.cons_ne_nil next rest)
    have hlookup : lookup? d t = some (.config sub) := Entry.of_injective hsub
    obtain rfl : sub = s := by simpa [hlookup] using hfound
    exact ⟨s', congrArg Entry.of hthere, keys_of_edits_comment hrest⟩
  · rintro d next rest hd rfl habsent
    obtain ⟨s, s', hfound, hrest, hthere⟩ := hedits.on_the_way hd (List.cons_ne_nil next rest)
    have hlookup : lookup? d t = none := Entry.of_injective habsent
    obtain rfl : empty = s := by simpa [hlookup] using hfound
    exact ⟨s', congrArg Entry.of hthere, entries_of_edits_comment hrest⟩
  · intro calls hcalls step hstep
    exact (getComment_of_mem_setEach hcalls hstep).trans hstored

end Tree

namespace Example

/-- The map of the pool is made for its comment, and holds no entry. -/
theorem setComment_commentedAt_pool :
    Store.setComment databaseTree ["db", "pool", "size"] "Connections"
        = (.ok none, ⟨[("name", .string "edge"), ("db", .config ⟨[("url", .null),
          ("pool", .config ⟨[], [("size", "Connections")]⟩)], [("url", "Where it is")]⟩)],
          [("db", "The store")]⟩)
      ∧ databaseTree.CommentedAt ["db", "pool", "size"] "Connections" none
        ⟨[("name", .string "edge"), ("db", .config ⟨[("url", .null),
          ("pool", .config ⟨[], [("size", "Connections")]⟩)], [("url", "Where it is")]⟩)],
          [("db", "The store")]⟩ :=
  ⟨rfl, Tree.setComment_commentedAt rfl⟩

end Example

end ConfigBinding
