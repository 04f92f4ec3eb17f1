import ConfigBinding.Proofs.Bridge.RoundTrip

/-!
# Keys of maps

A map may have texts, truth values or integers as keys, and all of them are stored as texts
(`Data.keyText?`): different keys of a map have different texts, so no entry is lost, and the entries
stand in the order of the map. Only an integer beyond the signed ones of 64 bits has no text. It is
made into a big integer before it is made into a text, and a big integer is no key.

On the way back a key is read from its text as a text, whatever type it is to have. So no map that
has an entry is read back unless its keys are texts themselves (`keepsKeys`).
-/

namespace ConfigBinding.Bridge

open Numeric

/-- The types of keys: texts, truth values and integers. -/
def DataType.isKey : DataType → Bool
  | .string | .bool | .integer _ => true
  | _ => false

/-- What a message calls the keys of a type when it is refused another thing. -/
def DataType.keyKind : DataType → String
  | .bool => "a boolean"
  | .integer type => type.name
  | _ => "a string"

/-- The text under which a key is stored, if it has one. -/
def Data.keyText? : Data → Option String
  | .string s => .some s
  | .bool b => .some (toString b)
  | .integer n => if -2 ^ 63 ≤ n ∧ n < 2 ^ 63 then .some (toString n) else .none
  | _ => .none

/-- The error for a key without a text. -/
def bigKeyError : Error := .custom "map keys must be strings, found big integer"

variable {k t : DataType} {key : Data} {text : String} {entries : List (Data × Data)}

/-! ## Texts of integers -/

/-- A number is what its digits stand for. -/
theorem ofDigitChars_repr (n : Nat) : Nat.ofDigitChars 10 n.repr.toList 0 = n := by
  rw [Nat.toList_repr, Nat.ofDigitChars_ten_toDigits]

theorem natRepr_injective : Function.Injective Nat.repr := by
  intro m n h
  rw [← ofDigitChars_repr m, h, ofDigitChars_repr]

/-- A text of digits does not begin with a minus sign. -/
theorem natRepr_ne_minus (n : Nat) (text : String) : n.repr ≠ "-" ++ text := by
  intro h
  have hminus : '-' ∈ Nat.toDigits 10 n := by
    rw [← Nat.toList_repr, h, String.toList_append]
    exact List.mem_cons_self
  exact absurd (Nat.isDigit_of_mem_toDigits (by decide) (by decide) hminus) (by decide)

/-- Different integers have different texts. -/
theorem intRepr_injective : Function.Injective Int.repr := by
  intro a b h
  cases a with
  | ofNat m =>
    cases b with
    | ofNat n => exact congrArg Int.ofNat (natRepr_injective h)
    | negSucc n => exact absurd h (natRepr_ne_minus m _)
  | negSucc m =>
    cases b with
    | ofNat n => exact absurd h.symm (natRepr_ne_minus n _)
    | negSucc n =>
      have hsucc : m + 1 = n + 1 := natRepr_injective ((String.append_right_inj "-").mp h)
      exact congrArg Int.negSucc (Nat.succ_inj.mp hsucc)

/-! ## Texts of keys -/

/-- A key is described by a value that has the text of the key, or has none. -/
theorem keyText_of_fits (hk : k.isKey = true) (h : Fits k key) :
    ∃ v, (k.encode key).toValue = .ok v
      ∧ MapBuilder.keyText v = key.keyText?.elim (.error bigKeyError) .ok := by
  cases h with
  | string s => exact ⟨.string s, rfl, rfl⟩
  | bool b => exact ⟨.bool b, rfl, rfl⟩
  | @integer type n =>
    refine ⟨.ofInt n, rfl, ?_⟩
    by_cases hnarrow : -2 ^ 63 ≤ n ∧ n < 2 ^ 63
    · have hint : (Int64.ofInt n).toInt = n := Int64.toInt_ofInt_of_le hnarrow.1 hnarrow.2
      rw [Value.ofInt, if_pos hnarrow, Data.keyText?, if_pos hnarrow, MapBuilder.keyText,
        Number.display, hint]
      rfl
    · rw [Value.ofInt, if_neg hnarrow, Data.keyText?, if_neg hnarrow]
      rfl
  | _ => cases hk

theorem keyText?_integer {n : Int} (h : (Data.integer n).keyText? = some text) :
    text = toString n := by
  rw [Data.keyText?] at h
  split at h
  · exact (Option.some.inj h).symm
  · cases h

/-- Of two keys in ascending order the texts are different. -/
theorem keyText?_ne_of_keyBefore (hk : k.isKey = true) {key' : Data} (hkey : Fits k key)
    (hkey' : Fits k key') (hbefore : k.keyBefore key key' = true) (h : key.keyText? = some text) :
    key'.keyText? ≠ some text := by
  intro h'
  cases hkey with
  | string a =>
    cases hkey' with
    | string b =>
      obtain rfl : b = a := (Option.some.inj h').trans (Option.some.inj h).symm
      exact String.lt_irrefl _ (of_decide_eq_true hbefore)
  | bool a =>
    cases hkey' with
    | bool b =>
      have htexts : toString a = toString b := Option.some.inj (h.trans h'.symm)
      obtain ⟨rfl, rfl⟩ : a = false ∧ b = true := by simpa [DataType.keyBefore] using hbefore
      exact absurd htexts (by decide)
  | @integer _ a =>
    cases hkey' with
    | @integer _ b =>
      have htexts : a.repr = b.repr := (keyText?_integer h).symm.trans (keyText?_integer h')
      obtain rfl : a = b := intRepr_injective htexts
      exact lt_irrefl a (of_decide_eq_true hbefore)
  | _ => cases hk

/-- A text is read as a key by the type of texts only. -/
theorem decode_keyText (hk : k.isKey = true) (hstring : k.isString = false) (text : String) :
    k.decode (.string text) = refuse (.wrongType (.str text) k.keyKind) := by
  cases k with
  | bool | integer => rfl
  | string => cases hstring
  | _ => cases hk

/-! ## Maps with keys of any type -/

theorem Fits.ascending (h : Fits (.map k t) (.map entries)) :
    entries.Pairwise fun p q => k.keyBefore p.1 q.1 = true := by
  cases h with
  | map horder _ _ => exact horder

theorem Fits.keys (h : Fits (.map k t) (.map entries)) : ∀ p ∈ entries, Fits k p.1 := by
  cases h with
  | map _ hkeys _ => exact hkeys

theorem Fits.values (h : Fits (.map k t) (.map entries)) : ∀ p ∈ entries, Fits t p.2 := by
  cases h with
  | map _ _ hvalues => exact hvalues

/-- The entries of a value are those of a map, one by one: each stands under the text of its key, and
holds what the value in the map is described by. -/
def StoredAs (t : DataType) (entries : List (Data × Data)) (values : List (String × Value)) : Prop :=
  List.Forall₂ (fun p e => p.1.keyText? = some e.1 ∧ (t.encode p.2).toValue = .ok e.2) entries values

/-- The step of the description of a map that gives an entry of it. -/
def mapStep (k t : DataType) (p : Data × Data) : MapStep := .entry (k.encode p.1) (t.encode p.2)

variable {values : List (String × Value)}

theorem exists_storedAs (hvalues : ∀ p ∈ entries, ∃ v, (t.encode p.2).toValue = .ok v)
    (htexts : ∀ p ∈ entries, p.1.keyText? ≠ none) : ∃ values, StoredAs t entries values := by
  refine exists_forall₂ fun p hmem => ?_
  obtain ⟨text, htext⟩ := Option.ne_none_iff_exists'.mp (htexts p hmem)
  obtain ⟨v, hv⟩ := hvalues p hmem
  exact ⟨(text, v), htext, hv⟩

/-- The entries of a map are stored under distinct texts. -/
theorem StoredAs.distinct (h : StoredAs t entries values) (hk : k.isKey = true)
    (hfits : Fits (.map k t) (.map entries)) : Keyed.Distinct values := by
  have htexts : (entries.map fun p => p.1.keyText?) = values.map fun e => some e.1 :=
    forall₂_eq_iff_map_eq.mp (h.imp fun _ _ he => he.1)
  have hne : (entries.map fun p => p.1.keyText?).Pairwise
      fun a b => ∀ text, a = some text → b ≠ some text :=
    List.pairwise_map.mpr (hfits.ascending.imp_of_mem fun hp hq hbefore _ =>
      keyText?_ne_of_keyBefore hk (hfits.keys _ hp) (hfits.keys _ hq) hbefore)
  rw [htexts, List.pairwise_map] at hne
  exact List.pairwise_map.mpr (hne.imp fun h heq => h _ rfl (congrArg some heq.symm))

/-- The steps of the description give the entries that are stored. -/
theorem StoredAs.gives (h : StoredAs t entries values) (hk : k.isKey = true)
    (hkeys : ∀ p ∈ entries, Fits k p.1) :
    List.Forall₂ MapStep.Gives (entries.map (mapStep k t)) values := by
  rw [List.forall₂_map_left_iff]
  induction h with
  | nil => exact .nil
  | @cons p e _ _ he _ ih =>
    obtain ⟨htext, hvalue⟩ := he
    obtain ⟨v, hencode, hkeyText⟩ := keyText_of_fits hk (hkeys p List.mem_cons_self)
    rw [htext] at hkeyText
    exact .cons (.entry hencode hkeyText hvalue) (ih fun p hp => hkeys p (List.mem_cons_of_mem _ hp))

/-- A map whose keys have texts is written entry by entry. -/
theorem encode_storedAs (h : StoredAs t entries values) (hk : k.isKey = true)
    (hfits : Fits (.map k t) (.map entries)) :
    ((DataType.map k t).encode (.map entries)).toValue = .ok (.config ⟨values, []⟩) := by
  rw [DataType.encode]
  exact toValue_map (h.gives hk hfits.keys) (h.distinct hk hfits)

/-- A map with a key that has no text is not written. -/
theorem encode_bigKey (hvalues : ∀ p ∈ entries, ∃ v, (t.encode p.2).toValue = .ok v)
    (hk : k.isKey = true) (hkeys : ∀ p ∈ entries, Fits k p.1)
    (hbig : ∃ p ∈ entries, p.1.keyText? = none) :
    ((DataType.map k t).encode (.map entries)).toValue = .error bigKeyError := by
  -- the entries before the first such key are stored, and then the key is refused
  obtain ⟨p, before, after, rfl, hp, hbefore⟩ : ∃ p before after, entries = before ++ p :: after
      ∧ p.1.keyText? = none ∧ ∀ q ∈ before, q.1.keyText? ≠ none := by
    have hfind : (entries.find? fun p => p.1.keyText?.isNone).isSome := by
      simpa [List.find?_isSome] using hbig
    obtain ⟨p, hp⟩ := Option.isSome_iff_exists.mp hfind
    obtain ⟨hnone, before, after, heq, hbefore⟩ := List.find?_eq_some_iff_append.mp hp
    exact ⟨p, before, after, heq, by simpa using hnone, by
      simpa [Option.isSome_iff_ne_none] using hbefore⟩
  have hmem : ∀ q ∈ before, q ∈ before ++ p :: after := fun q hq => List.mem_append_left _ hq
  obtain ⟨stored, hstored⟩ := exists_storedAs (fun q hq => hvalues q (hmem q hq)) hbefore
  obtain ⟨v, hencode, hkeyText⟩ :=
    keyText_of_fits hk (hkeys p (List.mem_append_right before List.mem_cons_self))
  rw [hp] at hkeyText
  rw [DataType.encode, List.map_append, List.map_cons]
  exact toValue_map_refused (hstored.gives hk fun q hq => hkeys q (hmem q hq)) hencode hkeyText

/-- A map is not read from entries if its keys are no texts, but refused for the first entry. -/
theorem decode_cons_of_not_isString (hk : k.isKey = true) (hstring : k.isString = false) (text : String)
    (v : Value) (rest : List (String × Value)) :
    (DataType.map k t).decode (.config ⟨(text, v) :: rest, []⟩)
      = refuse (.wrongType (.str text) k.keyKind) := by
  simp only [DataType.decode, Incoming.of, readMap, decode_keyText hk hstring]
  rfl

/-- How a map goes through a value and comes back. -/
structure KeepsKeys (k t : DataType) (entries : List (Data × Data)) : Prop where
  /-- A map whose keys have texts becomes a value with one entry for each key, in the order of the
  map. -/
  writes : (∀ p ∈ entries, p.1.keyText? ≠ none) → ∃ values, StoredAs t entries values
    ∧ Keyed.Distinct values
    ∧ ((DataType.map k t).encode (.map entries)).toValue = .ok (.config ⟨values, []⟩)
  /-- A map with a key that has none is not written. -/
  refuses : (∃ p ∈ entries, p.1.keyText? = none) →
    ((DataType.map k t).encode (.map entries)).toValue = .error bigKeyError
  /-- What is written is read back if the keys are texts themselves, or if there are none. -/
  reads : ∀ values, StoredAs t entries values → k.isString = true ∨ entries = [] →
    (DataType.map k t).decode (.config ⟨values, []⟩) = .ok (.map entries)
  /-- Else it is refused for the text of the first key. -/
  turnsAway : ∀ text v rest, StoredAs t entries ((text, v) :: rest) → k.isString = false →
    (DataType.map k t).decode (.config ⟨(text, v) :: rest, []⟩)
      = refuse (.wrongType (.str text) k.keyKind)

/-- A map goes through a value and comes back if its keys are texts. If they are truth values or
integers, it is written but not read, and if one of them lies beyond 64 bits, not even written. -/
theorem keepsKeys (hk : k.isKey = true) (ht : t.isFaithful = true)
    (hfits : Fits (.map k t) (.map entries)) : KeepsKeys k t entries := by
  have hvalues : ∀ p ∈ entries, ∃ v, (t.encode p.2).toValue = .ok v := fun p hmem =>
    (roundTrips_of_fits (hfits.values p hmem) ht).imp fun _ => And.left
  refine ⟨fun htexts => ?_, fun hbig => ?_, fun values hstored hback => ?_, fun text v rest _ => ?_⟩
  · obtain ⟨values, hstored⟩ := exists_storedAs hvalues htexts
    exact ⟨values, hstored, hstored.distinct hk hfits, encode_storedAs hstored hk hfits⟩
  · exact encode_bigKey hvalues hk hfits.keys hbig
  · rcases hback with hstring | rfl
    · -- a map with texts as keys is of a faithful type
      have hfaithful : (DataType.map k t).isFaithful = true := by
        rw [DataType.isFaithful, hstring, ht]
        rfl
      obtain ⟨v, hencode, hdecode⟩ := roundTrips_of_fits hfits hfaithful
      rw [encode_storedAs hstored hk hfits] at hencode
      rwa [← Except.ok.inj hencode] at hdecode
    · cases hstored
      rfl
  · exact fun hstring => decode_cons_of_not_isString hk hstring text v rest

namespace Example

/-- A map with texts as keys goes through a value and comes back. -/
theorem keepsKeys_switches :
    let switches := [(Data.string "off", Data.bool false), (.string "on", .bool true)]
    StoredAs .bool switches [("off", .bool false), ("on", .bool true)]
      ∧ (DataType.map .string .bool).decode (.config ⟨[("off", .bool false), ("on", .bool true)], []⟩)
        = .ok (.map switches) := by
  intro switches
  have hfits : Fits (.map .string .bool) (.map switches) := by
    refine .map (List.pairwise_pair.mpr (by decide)) ?_ ?_ <;>
      simp only [switches, List.forall_mem_cons]
    · exact ⟨.string _, .string _, nofun⟩
    · exact ⟨.bool _, .bool _, nofun⟩
  have hstored : StoredAs .bool switches [("off", .bool false), ("on", .bool true)] :=
    .cons ⟨rfl, rfl⟩ (.cons ⟨rfl, rfl⟩ .nil)
  exact ⟨hstored, (keepsKeys rfl rfl hfits).reads _ hstored (.inl rfl)⟩

/-- A map with a number as key is written and not read back, and one with a number beyond 64 bits is
not even written. -/
theorem numericKeys_lost :
    Fits (.map (.integer .u32) .bool) (.map [(.integer 1, .bool true)])
      ∧ ((DataType.map (.integer .u32) .bool).encode (.map [(.integer 1, .bool true)])).toValue
        = .ok (.config ⟨[("1", .bool true)], []⟩)
      ∧ (DataType.map (.integer .u32) .bool).decode (.config ⟨[("1", .bool true)], []⟩)
        = refuse (.wrongType (.str "1") "u32")
      ∧ Fits (.map (.integer .u64) .bool) (.map [(.integer (2 ^ 63), .bool true)])
      ∧ ((DataType.map (.integer .u64) .bool).encode (.map [(.integer (2 ^ 63), .bool true)])).toValue
        = .error (.custom "map keys must be strings, found big integer") := by
  have hfits : ∀ (type : IntType) (n : Int), type.contains n = true →
      Fits (.map (.integer type) .bool) (.map [(.integer n, .bool true)]) := fun type n h =>
    .map (List.pairwise_singleton _ _) (List.forall_mem_singleton.mpr (.integer h))
      (List.forall_mem_singleton.mpr (.bool true))
  exact ⟨hfits .u32 1 (by decide), rfl, rfl, hfits .u64 (2 ^ 63) (by decide), rfl⟩

end Example

end ConfigBinding.Bridge
