import ConfigBinding.Proofs.Codec.Failures
import ConfigBinding.Proofs.Rule.Decisions
import ConfigBinding.Proofs.Schema.ReadErrors
import ConfigBinding.Proofs.Schema.SkipCoherence

/-!
# What a member is read as

The stages of reading a member, put together into one table (`Member.ReadsByTable`). A member is
skipped when one of its skip rules matches its entry (`Member.IsSkipped`). Otherwise there is at most
one datum that it may become, its candidate (`Member.MayBecome`): the first default that the entry
triggers, whatever the entry is, and only without one what the entry stands for. The member becomes
the candidate if there is one and all assertions are met by it, and else stays as it is, with an
error.

An entry that is there is never reported as missing. For that the type of the member must have no
objects inside, since the members of an object may be missing themselves.
-/

namespace ConfigBinding

/-! ## Types without objects -/

/-- A type without objects fails in reading with no final error. -/
theorem MemberType.neverFinal_of_isFlat {t : MemberType} (ht : t.isFlat = true)
    (objects : String → Codec) (o : Options) : (t.codecWith objects).NeverFinal o := by
  induction t with
  | bool => exact Codec.faultsOnly_bool.neverFinal
  | integer type => exact (Codec.faultsOnly_integer type).neverFinal
  | single => exact Codec.faultsOnly_single.neverFinal
  | double => exact Codec.faultsOnly_double.neverFinal
  | char => exact Codec.faultsOnly_char.neverFinal
  | string => exact Codec.faultsOnly_string.neverFinal
  | dateTime => exact Codec.faultsOnly_dateTime.neverFinal
  | bigInt => exact Codec.faultsOnly_bigInt.neverFinal
  | value => exact Codec.faultsOnly_value.neverFinal
  | tree => exact Codec.faultsOnly_tree.neverFinal
  | option t ih => exact (ih ht).option
  | list t ih => exact (ih ht).list
  | map kind t ih => exact (ih ht).map kind
  | described type => exact Codec.neverFinal_described type
  | object n => cases ht

/-! ## The table -/

/-- The closures of a member's skip rules for reading, and those of its defaults, are found. Nothing
is asked of assertions: one whose closure is not found is not met. -/
structure Member.FindsClosures (m : Member Codec) : Prop where
  skips : ∀ check, .custom check ∈ m.rules.skipRules .reading → ∃ closure,
    m.scope.resolve .skipPredicate Closure.skip? Closure.sharedSkip? check = .ok closure
  defaults : ∀ rule ∈ m.rules.defaults, ∃ provide,
    m.scope.resolve .defaultProvider (Closure.provider? m.type.name)
      (Closure.sharedProvider? m.type.name) rule.provider = .ok provide

section Table

variable {σ : Type} [Store σ]

namespace Member

/-- One of the skip rules matches the member's entry. -/
def IsSkipped (m : Member Codec) (o : Options) (source : σ) (x : Object) : Prop :=
  ∃ rule ∈ m.rules.skipRules .reading, rule.Matches (m.entry o source) (m.owner x) m.scope

/-- No default of the member is triggered by its entry. -/
def IsUntriggered (m : Member Codec) (o : Options) (source : σ) : Prop :=
  ∀ rule ∈ m.rules.defaults, ¬ rule.IsTriggered (m.entry o source)

/-- The datum that a member may become. -/
inductive MayBecome (m : Member Codec) (o : Options) (source : σ) (x : Object) : Datum → Prop where
  /-- The first default that is triggered, whatever else the entry is. -/
  | default {rule : DefaultRule} {provide : Provider}
    (hfirst : FirstTriggered m.rules.defaults (m.entry o source) rule)
    (hresolve : m.scope.resolve .defaultProvider (Closure.provider? m.type.name)
      (Closure.sharedProvider? m.type.name) rule.provider = .ok provide) :
    MayBecome m o source x (provide (m.owner x))
  /-- Without a default, what the entry is read as on its own; the null marker is no value. -/
  | entry {d : Datum} (huntriggered : m.IsUntriggered o source)
    (hthere : m.entry o source ≠ .absent)
    (hread : m.type.read o (m.entry o source).value? = .ok d) : MayBecome m o source x d

/-- Reading a member goes by the table. -/
structure ReadsByTable (m : Member Codec) (o : Options) (source : σ) (x : Object) : Prop where
  /-- A member that is skipped stays as it is. -/
  skipped : m.IsSkipped o source x → m.read o source x = (.ok (), x)
  /-- Without a default, the member is reported as missing exactly when it has no entry. -/
  missing : ¬ m.IsSkipped o source x → m.IsUntriggered o source →
    (m.read o source x = (.error (.missingEntry (m.key o) m.name m.declaringType), x)
      ↔ m.entry o source = .absent)
  /-- When there is an entry, nothing at all is reported as missing. -/
  present : m.entry o source ≠ .absent → ∀ e, (m.read o source x).1 = .error e →
    e.kind ≠ .missingEntry
  /-- The first default that is triggered provides the only candidate, also if the entry cannot be
  converted. -/
  default : ∀ rule, FirstTriggered m.rules.defaults (m.entry o source) rule → ∃ provide,
    m.scope.resolve .defaultProvider (Closure.provider? m.type.name)
        (Closure.sharedProvider? m.type.name) rule.provider = .ok provide
      ∧ ∀ d, m.MayBecome o source x d ↔ d = provide (m.owner x)
  /-- Without a default, the only candidate is what the entry is read as. -/
  entry : m.IsUntriggered o source → ∀ d, m.MayBecome o source x d
    ↔ m.entry o source ≠ .absent ∧ m.type.read o (m.entry o source).value? = .ok d
  /-- The member becomes the candidate if its assertions are met. -/
  taken : ¬ m.IsSkipped o source x → ∀ d, m.MayBecome o source x d → m.Accepts x d →
    m.read o source x = (.ok (), m.set x d)
      ∧ ((x.at? m.path m.slot).isSome → (m.set x d).at? m.path m.slot = some d)
  /-- If not, or if there is no candidate, the member stays as it is, and there is an error. -/
  refused : ¬ m.IsSkipped o source x → (∀ d, m.MayBecome o source x d → ¬ m.Accepts x d) →
    ∃ e, m.read o source x = (.error e, x)

variable {m : Member Codec} {o : Options} {source : σ} {x : Object} {d : Datum}

/-! ## Skipping and defaults -/

theorem decides_skipsReading (h : m.FindsClosures) :
    (m.skipsReading o source x).Decides (m.IsSkipped o source x) :=
  MemberRules.decides_shouldSkip_entry h.skips

theorem readingDefault_eq_none :
    m.readingDefault o source x = .ok none ↔ m.IsUntriggered o source := by
  rw [readingDefault, MemberRules.findDefault_eq_none, selectDefault_entry_eq_none, IsUntriggered]

theorem readingDefault_eq_some : m.readingDefault o source x = .ok (some d) ↔ ∃ rule provide,
    FirstTriggered m.rules.defaults (m.entry o source) rule
      ∧ m.scope.resolve .defaultProvider (Closure.provider? m.type.name)
        (Closure.sharedProvider? m.type.name) rule.provider = .ok provide
      ∧ provide (m.owner x) = d := by
  rw [readingDefault, MemberRules.findDefault_eq_some]
  simp only [selectDefault_entry_eq_some]
  rfl

/-! ## Candidates -/

theorem convert_eq_ok {entry : Entry} :
    m.convert o entry = .ok d ↔ entry ≠ .absent ∧ m.type.read o entry.value? = .ok d := by
  cases entry with
  | absent => exact iff_of_false nofun fun h => h.1 rfl
  | null => exact Result.mapError_eq_ok.trans (and_iff_right nofun).symm
  | present v => exact Result.mapError_eq_ok.trans (and_iff_right nofun).symm

/-- A member is read as its candidate. -/
theorem readAs_iff_mayBecome : m.ReadAs o source x d ↔ m.MayBecome o source x d := by
  rw [ReadAs, readingDefault_eq_none, readingDefault_eq_some, convert_eq_ok]
  constructor
  · rintro (⟨rule, provide, hfirst, hresolve, rfl⟩ | ⟨huntriggered, hthere, hread⟩)
    · exact .default hfirst hresolve
    · exact .entry huntriggered hthere hread
  · intro h
    cases h with
    | default hfirst hresolve => exact .inl ⟨_, _, hfirst, hresolve, rfl⟩
    | entry huntriggered hthere hread => exact .inr ⟨huntriggered, hthere, hread⟩

/-- Without a default, a candidate is what the entry is read as. -/
theorem mayBecome_iff_of_isUntriggered (h : m.IsUntriggered o source) : m.MayBecome o source x d
    ↔ m.entry o source ≠ .absent ∧ m.type.read o (m.entry o source).value? = .ok d := by
  have hnone : m.readingDefault o source x = .ok none := readingDefault_eq_none.mpr h
  rw [← readAs_iff_mayBecome, ReadAs, hnone, convert_eq_ok, and_iff_right rfl]
  exact or_iff_right nofun

/-- A default that is triggered before all others provides the candidate. -/
theorem mayBecome_iff_of_firstTriggered {rule : DefaultRule} {provide : Provider}
    (hfirst : FirstTriggered m.rules.defaults (m.entry o source) rule)
    (hresolve : m.scope.resolve .defaultProvider (Closure.provider? m.type.name)
      (Closure.sharedProvider? m.type.name) rule.provider = .ok provide) :
    m.MayBecome o source x d ↔ d = provide (m.owner x) := by
  have hdefault : m.readingDefault o source x = .ok (some (provide (m.owner x))) :=
    readingDefault_eq_some.mpr ⟨rule, provide, hfirst, hresolve, rfl⟩
  rw [← readAs_iff_mayBecome, ReadAs, hdefault]
  constructor
  · rintro (h | ⟨h, -⟩)
    · exact (Option.some.inj (Except.ok.inj h)).symm
    · cases h
  · rintro rfl
    exact .inl rfl

theorem FindsClosures.exists_provide (h : m.FindsClosures) {rule : DefaultRule}
    (hfirst : FirstTriggered m.rules.defaults (m.entry o source) rule) : ∃ provide,
    m.scope.resolve .defaultProvider (Closure.provider? m.type.name)
      (Closure.sharedProvider? m.type.name) rule.provider = .ok provide := by
  obtain ⟨before, after, hsplit, -, -⟩ := hfirst
  exact h.defaults rule (hsplit ▸ List.mem_append_right before List.mem_cons_self)

/-! ## Outcomes -/

/-- A member that is not skipped becomes what it is read as, if its assertions are met. -/
theorem toRead_of_readAs (hskip : m.skipsReading o source x = .ok false)
    (hread : m.ReadAs o source x d) (haccepts : m.Accepts x d) :
    m.toRead o source x = .ok (some d) := by
  have hcheck : m.rules.checkAsserts m.type.name d (m.owner x) m.scope = .ok () :=
    MemberRules.checkAsserts_eq_ok.mpr haccepts
  refine Result.bind_eq_ok.mpr ⟨false, hskip, ?_⟩
  rcases hread with hdefault | ⟨hdefault, hconvert⟩
  · refine Result.bind_eq_ok.mpr ⟨some d, hdefault, Result.bind_eq_ok.mpr ⟨d, rfl, ?_⟩⟩
    exact Result.bind_eq_ok.mpr ⟨(), hcheck, rfl⟩
  · refine Result.bind_eq_ok.mpr ⟨none, hdefault, Result.bind_eq_ok.mpr ⟨d, hconvert, ?_⟩⟩
    exact Result.bind_eq_ok.mpr ⟨(), hcheck, rfl⟩

/-- Without a default, a member whose entry stands for no datum fails as the entry does. -/
theorem toRead_of_convert {e : Error} (hskip : m.skipsReading o source x = .ok false)
    (hdefault : m.readingDefault o source x = .ok none)
    (hconvert : m.convert o (m.entry o source) = .error e) :
    m.toRead o source x = .error e := by
  refine Result.bind_eq_error.mpr (.inr ⟨false, hskip, ?_⟩)
  refine Result.bind_eq_error.mpr (.inr ⟨none, hdefault, ?_⟩)
  exact Result.bind_eq_error.mpr (.inl hconvert)

/-- What a member does is known from what it is to become. -/
theorem read_of_toRead_some (h : m.toRead o source x = .ok (some d)) :
    m.read o source x = (.ok (), m.set x d) := by
  rw [read, h]

theorem read_of_toRead_error {e : Error} (h : m.toRead o source x = .error e) :
    m.read o source x = (.error e, x) := by
  rw [read, h]

/-- When there is an entry, no error is about a missing one. -/
theorem kind_of_toRead (ho : o.registry.IsBuiltin) (htype : m.type.NeverFinal o)
    (hthere : m.entry o source ≠ .absent) {e : Error} (h : m.toRead o source x = .error e) :
    e.kind ≠ .missingEntry := by
  intro hkind
  rcases error_of_toRead h with hrule | hconvert
  · rcases hrule with ⟨fault, rfl⟩ | ⟨text, rfl⟩ <;> cases hkind
  · rcases error_of_convert hconvert with ⟨habsent, -⟩ | ⟨-, e', hread, rfl⟩
    · exact absurd habsent hthere
    · have hfinal : e'.isFinal = false := htype.read ho _ e' hread
      rw [Error.under, hfinal] at hkind
      cases hkind

/-- With the built-in converters, reading goes by the table if no error of the type is final. -/
theorem readsByTable (ho : o.registry.IsBuiltin) (htype : m.type.NeverFinal o)
    (h : m.FindsClosures) : m.ReadsByTable o source x where
  skipped hskipped := by
    rw [read, toRead_of_skipsReading ((decides_skipsReading h).eq_true hskipped)]
  missing hskipped huntriggered := by
    have hskip := (decides_skipsReading h).eq_false hskipped
    constructor
    · -- the errors of the type itself are not final, so this one is not among them
      intro hread
      by_contra hthere
      exact kind_of_toRead ho htype hthere (toRead_of_read hread).1 rfl
    · intro habsent
      refine read_of_toRead_error
        (toRead_of_convert hskip (readingDefault_eq_none.mpr huntriggered) ?_)
      rw [habsent]
      rfl
  present hthere e he := kind_of_toRead ho htype hthere (toRead_of_read (Prod.ext he rfl)).1
  default rule hfirst := by
    obtain ⟨provide, hresolve⟩ := h.exists_provide hfirst
    exact ⟨provide, hresolve, fun d => mayBecome_iff_of_firstTriggered hfirst hresolve⟩
  entry huntriggered d := mayBecome_iff_of_isUntriggered huntriggered
  taken hskipped d hd haccepts := by
    have hskip := (decides_skipsReading h).eq_false hskipped
    refine ⟨read_of_toRead_some (toRead_of_readAs hskip (readAs_iff_mayBecome.mpr hd) haccepts), ?_⟩
    exact fun hslot => Object.at?_updatePart_of_isSome hslot d
  refused hskipped hnone := by
    have hskip := (decides_skipsReading h).eq_false hskipped
    cases htoRead : m.toRead o source x with
    | error e => exact ⟨e, read_of_toRead_error htoRead⟩
    | ok r =>
      rcases toRead_cases htoRead with ⟨hskips, -⟩ | ⟨d, -, hread, haccepts, -⟩
      · cases hskip.symm.trans hskips
      · exact absurd haccepts (hnone d (readAs_iff_mayBecome.mp hread))

end Member

/-- With the built-in converters, every member whose type has no objects inside is read by the
table, into every object, from every store and with every naming of keys, if the closures of its
rules are found. -/
theorem TypeTable.readsByTable_of_isFlat (ts : TypeTable) (m : Member MemberType) (o : Options)
    (source : σ) (x : Object) (ho : o.registry.IsBuiltin) (hflat : m.type.isFlat = true)
    (h : (m.mapType ts.codec).FindsClosures) :
    (m.mapType ts.codec).ReadsByTable o source x :=
  Member.readsByTable ho (MemberType.neverFinal_of_isFlat hflat _ o) h

end Table

/-! ## The port of a server

It is left alone where the tree has the null marker, which a named rule says, is 8080 where the tree
has something empty, and is not below 1024.
-/

namespace Example

/-- The port of a server. -/
def serverPort : Member MemberType where
  name := "port"
  path := []
  slot := "port"
  type := .integer .u16
  declaringType := "Server"
  rules := ((MemberRules.add {} (.skip (some .reading) (.custom (.named "unset" none)))).add
    (.default ⟨.inline fun _ => .integer 8080, [.isEmpty]⟩)).add
    (.assert (.custom (.inline (DatumCondition.assertion (.atLeast (.integer 1024))))))
  table := ⟨"Server", [("unset", .skip fun _ entry => entry.isNull)]⟩

/-- The port as it is run. -/
def compiledPort : Member Codec := serverPort.mapType (TypeTable.codec {})

/-- A server. -/
def server (port : Int) : Object := ⟨"Server", [("port", .integer port)]⟩

/-- A tree with a port. -/
def portTree (port : Value) : Tree := ⟨[("port", port)], []⟩

theorem compiledPort_findsClosures : compiledPort.FindsClosures where
  skips check hcheck := by
    obtain rfl : check = .named "unset" none := by
      simpa [compiledPort, serverPort, Member.mapType, MemberRules.add, RuleSet.add,
        MemberRules.skipRules, MemberRules.blocks, RuleSet.skipRules] using hcheck
    exact ⟨_, rfl⟩
  defaults rule hrule := by
    obtain rfl : rule = ⟨.inline fun _ => .integer 8080, [.isEmpty]⟩ := List.mem_singleton.mp hrule
    exact ⟨_, rfl⟩

/-- A text cannot be converted into a port, but an empty one makes the default apply. A port that is
not there is reported as missing, one that is too low is refused, and the null marker changes
nothing. -/
theorem readsByTable_serverPort :
    compiledPort.ReadsByTable {} (portTree (.string "")) (server 8000)
      ∧ compiledPort.read {} (portTree (.string "")) (server 8000) = (.ok (), server 8080)
      ∧ compiledPort.read {} (portTree (.number (.integer 9000))) (server 8000)
        = (.ok (), server 9000)
      ∧ compiledPort.read {} (portTree (.number (.integer 80))) (server 8000)
        = (.error (.assertion "port" "Server" "80"), server 8000)
      ∧ compiledPort.read {} (portTree .null) (server 8000) = (.ok (), server 8000)
      ∧ compiledPort.read {} Tree.empty (server 8000)
        = (.error (.missingEntry "port" "port" "Server"), server 8000) := by
  refine ⟨?_, rfl, rfl, rfl, rfl, rfl⟩
  exact TypeTable.readsByTable_of_isFlat {} serverPort {} (portTree (.string "")) (server 8000)
    Registry.isBuiltin_builtin rfl compiledPort_findsClosures

end Example

end ConfigBinding
