import ConfigBinding.Proofs.Keyed
import Mathlib.Data.List.Induction

/-!
# What has happened to the keys of a keyed list

A keyed list is told by what has happened to its keys, in order (`Keyed.Event`). A key is there if
the last event about it did not drop it (`Keyed.Present`), and it came in with the first event since
then, before which it was not there (`Keyed.BornAt`). A list follows some events (`Keyed.Follows`) if
each key holds what the last event about it says, and if the keys stand in the order in which they
came in. So a key that is written again stays where it is, and one that comes back after it was
dropped goes to the end; nothing about the order is left open (`Follows.keys_unique`).

There is one lemma for an event that stores something (`Follows.arrive`) and one for an event that
drops a key (`Follows.drop`).
-/

namespace ConfigBinding.Keyed

variable {α : Type}

/-- What happens to a key. -/
inductive Event (α : Type) where
  /-- A value is stored under the key. -/
  | put (key : String) (value : α)
  /-- What the key holds changes from within; if the key is not there, something is made for it. -/
  | reach (key : String)
  /-- The key is dropped. -/
  | drop (key : String)

/-- The key that an event is about. -/
def Event.key : Event α → String
  | .put key _ | .reach key | .drop key => key

/-- Whether the key is gone after the event. -/
def Event.isDrop : Event α → Bool
  | .drop _ => true
  | _ => false

/-- The last event about a key. -/
def latest? (events : List (Event α)) (key : String) : Option (Event α) :=
  (events.filter fun e => e.key = key).getLast?

/-- After the events the key is there. -/
def Present (events : List (Event α)) (key : String) : Prop :=
  ∃ e, latest? events key = some e ∧ e.isDrop = false

/-- The key came in with the event at a position, and has been there ever since. -/
structure BornAt (events : List (Event α)) (key : String) (i : Nat) : Prop where
  lt : i < events.length
  absent : ¬ Present (events.take i) key
  present : ∀ n, i < n → n ≤ events.length → Present (events.take n) key

/-- The first key came in before the second. -/
def Earlier (events : List (Event α)) (key other : String) : Prop :=
  ∃ i j, BornAt events key i ∧ BornAt events other j ∧ i < j

/-- What a key holds after the last event about it; `made` is said of what changes from within. -/
def Holds (made : α → Prop) : Option (Event α) → Option α → Prop
  | some (.put _ value), found => found = some value
  | some (.reach _), found => ∃ value, found = some value ∧ made value
  | some (.drop _), found => found = none
  | none, found => found = none

/-- The keyed list is what the events have made of an empty one. -/
structure Follows (made : α → Prop) (events : List (Event α)) (entries : List (String × α)) :
    Prop where
  /-- No key occurs twice. -/
  distinct : Distinct entries
  /-- Each key holds what the last event about it says. -/
  held : ∀ key, Holds made (latest? events key) (get? entries key)
  /-- The keys stand in the order in which they came in. -/
  ordered : (keys entries).Pairwise (Earlier events)

variable {made : α → Prop} {events : List (Event α)} {entries : List (String × α)}
  {key other : String} {e : Event α} {i j : Nat}

/-! ## One more event -/

theorem latest?_concat (events : List (Event α)) (e : Event α) (key : String) :
    latest? (events ++ [e]) key = if e.key = key then some e else latest? events key := by
  unfold latest?
  split_ifs with h <;> simp [h]

theorem present_concat : Present (events ++ [e]) key ↔
    if e.key = key then e.isDrop = false else Present events key := by
  unfold Present
  rw [latest?_concat]
  split_ifs <;> simp

/-- A key came in once. -/
theorem BornAt.unique (hi : BornAt events key i) (hj : BornAt events key j) : i = j := by
  obtain hlt | heq | hlt := Nat.lt_trichotomy i j
  · exact absurd (hi.present j hlt (Nat.le_of_lt hj.lt)) hj.absent
  · exact heq
  · exact absurd (hj.present i hlt (Nat.le_of_lt hi.lt)) hi.absent

/-- A key that stays came in when it came in before. -/
theorem BornAt.concat (h : BornAt events key i) (hpresent : Present (events ++ [e]) key) :
    BornAt (events ++ [e]) key i where
  lt := by
    have hlt := h.lt
    simp only [List.length_append, List.length_singleton]
    omega
  absent := by
    rw [List.take_append_of_le_length (Nat.le_of_lt h.lt)]
    exact h.absent
  present n hn hle := by
    by_cases hold : n ≤ events.length
    · rw [List.take_append_of_le_length hold]
      exact h.present n hn hold
    · rw [List.take_of_length_le (by simp; omega)]
      exact hpresent

/-- A key that was not there comes in with the event that is about it. -/
theorem bornAt_length (habsent : ¬ Present events key) (hpresent : Present (events ++ [e]) key) :
    BornAt (events ++ [e]) key events.length where
  lt := by simp
  absent := by simpa using habsent
  present n hn hle := by
    rw [List.take_of_length_le (by simp; omega)]
    exact hpresent

/-- A key that is there came in with some event. -/
theorem Present.exists_bornAt (h : Present events key) : ∃ i, BornAt events key i := by
  induction events using List.reverseRecOn with
  | nil =>
    obtain ⟨e, he, -⟩ := h
    simp [latest?] at he
  | append_singleton events e ih =>
    by_cases hbefore : Present events key
    · obtain ⟨i, hi⟩ := ih hbefore
      exact ⟨i, hi.concat h⟩
    · exact ⟨events.length, bornAt_length hbefore h⟩

/-! ## What follows the events -/

namespace Follows

theorem nil : Follows made [] [] :=
  ⟨List.nodup_nil, fun _ => rfl, List.Pairwise.nil⟩

/-- The keys are those that are there after the events. -/
theorem mem_keys_iff (h : Follows made events entries) : key ∈ keys entries ↔ Present events key := by
  have hheld := h.held key
  rw [Keyed.mem_keys_iff, Present]
  cases hlatest : latest? events key with
  | none => simp_all [Holds]
  | some e =>
    rw [hlatest] at hheld
    cases e with
    | put => simp_all [Holds, Event.isDrop]
    | reach => exact iff_of_true (hheld.imp fun _ => And.left) ⟨_, rfl, rfl⟩
    | drop => simp_all [Holds, Event.isDrop]

/-- Keys that stay keep their order. -/
theorem ordered_sublist (h : Follows made events entries) {ks : List String}
    (hsublist : ks.Sublist (keys entries)) (hstays : ∀ key ∈ ks, Present (events ++ [e]) key) :
    ks.Pairwise (Earlier (events ++ [e])) := by
  refine (h.ordered.sublist hsublist).imp_of_mem fun hkey hkey' => ?_
  rintro ⟨i, j, hi, hj, hlt⟩
  exact ⟨i, j, hi.concat (hstays _ hkey), hj.concat (hstays _ hkey'), hlt⟩

/-- An event that stores something, which is new or written over. -/
theorem arrive (h : Follows made events entries) {value : α} (hdrop : e.isDrop = false)
    (hholds : Holds made (some e) (some value)) :
    Follows made (events ++ [e]) (insert entries e.key value) where
  distinct := distinct_insert h.distinct _ _
  held key := by
    rw [latest?_concat]
    by_cases hkey : e.key = key
    · subst hkey
      rw [if_pos rfl, get?_insert_self]
      exact hholds
    · rw [if_neg hkey, get?_insert_of_ne entries value (Ne.symm hkey)]
      exact h.held key
  ordered := by
    have hstays : ∀ key ∈ keys entries, Present (events ++ [e]) key := by
      intro key hkey
      rw [present_concat]
      split_ifs
      · exact hdrop
      · exact h.mem_keys_iff.mp hkey
    have hordered := h.ordered_sublist (List.Sublist.refl _) hstays
    rw [keys_insert]
    split_ifs with hmem
    · exact hordered
    · -- the key comes in with this event, all others have come in before
      have habsent : ¬ Present events e.key := fun hpresent => hmem (h.mem_keys_iff.mpr hpresent)
      have hborn : BornAt (events ++ [e]) e.key events.length :=
        bornAt_length habsent (by simpa [present_concat] using hdrop)
      rw [List.pairwise_append]
      refine ⟨hordered, List.pairwise_singleton _ _, fun key hkey key' hkey' => ?_⟩
      obtain rfl := List.mem_singleton.mp hkey'
      obtain ⟨i, hi⟩ := (h.mem_keys_iff.mp hkey).exists_bornAt
      exact ⟨i, events.length, hi.concat (hstays key hkey), hborn, hi.lt⟩

/-- An event that drops a key, which need not have been there. -/
theorem drop (h : Follows made events entries) (key : String) :
    Follows made (events ++ [.drop key]) (erase entries key) where
  distinct := distinct_erase h.distinct key
  held other := by
    rw [latest?_concat]
    by_cases hkey : key = other
    · subst hkey
      rw [Event.key, if_pos rfl, get?_erase_self h.distinct]
      rfl
    · rw [Event.key, if_neg hkey, get?_erase_of_ne entries (Ne.symm hkey)]
      exact h.held other
  ordered := by
    rw [keys_erase]
    refine h.ordered_sublist List.erase_sublist fun other hother => ?_
    obtain ⟨hne, hmem⟩ := (List.Nodup.mem_erase_iff h.distinct).mp hother
    rw [present_concat, Event.key, if_neg (Ne.symm hne)]
    exact h.mem_keys_iff.mp hmem

end Follows

/-- The events settle the order of the keys. -/
theorem Follows.keys_unique {entries' : List (String × α)} (h : Follows made events entries)
    (h' : Follows made events entries') : keys entries = keys entries' := by
  have hperm : (keys entries).Perm (keys entries') :=
    (List.perm_ext_iff_of_nodup h.distinct h'.distinct).mpr fun key =>
      h.mem_keys_iff.trans h'.mem_keys_iff.symm
  refine hperm.eq_of_pairwise (fun key other _ _ hearlier hlater => ?_) h.ordered h'.ordered
  obtain ⟨i, j, hi, hj, hlt⟩ := hearlier
  obtain ⟨j', i', hj', hi', hlt'⟩ := hlater
  have hi_eq := hi.unique hi'
  have hj_eq := hj.unique hj'
  omega

/-- Entries as events that store them one after the other. -/
def puts (entries : List (String × α)) : List (Event α) :=
  entries.map fun p => .put p.1 p.2

theorem follows_puts (h : Distinct entries) : Follows made (puts entries) entries := by
  induction entries using List.reverseRecOn with
  | nil => exact .nil
  | append_singleton entries p ih =>
    have hsplit : Distinct (entries ++ (p.1, p.2) :: []) := h
    have hnew : p.1 ∉ keys entries := not_mem_of_distinct_append hsplit
    have hfront : Distinct entries := by
      rw [Distinct, keys, List.map_append] at h
      exact (List.nodup_append.mp h).1
    have hfollows : Follows made (puts entries ++ [.put p.1 p.2]) (insert entries p.1 p.2) :=
      (ih hfront).arrive (e := .put p.1 p.2) rfl rfl
    rw [insert_of_not_mem hnew] at hfollows
    rwa [puts, List.map_append]

end ConfigBinding.Keyed
