/-
# Which configuration files break a run off

A configuration file can be at fault in many ways, and of most of them the user is told as of a
wrong usage.  Five kinds of fault are not: a path that is too long, a file or a directory that the
user may not open, a directory in the place of the file, a YAML text that is at fault for more than
the value of a number or a time, and a delay that is an integer beyond the doubles.  The last is told
by the file alone, because a mapping without mistakes can fail for nothing else.

All this is said of texts within reach, which do not nest too deep.  The readers here have no limit
on that.  A reader that calls itself for each bracket has one, and on a text beyond it breaks the run
off, in JSON as in YAML and whatever else the text says.  Nor is anything said of running out of
memory, or of places that are neither directories nor regular files.

* `policyField_of_valid`: what is wrong with a policy without mistakes;
* `ofEntries_of_no_mistake`: **a mapping without mistakes is a configuration,** unless a delay is
  beyond the doubles;
* `ConfigFormat.depth`, `WithinReach`: how deep a text leads into recursion;
* `BreaksOff`: the faults that break a run off, by what is at the path; `breaksOff_iff`;
* `run_of_configFile`: **how a run with a configuration file begins.**
-/
import DeviceSampling.CommandLine.Run
import DeviceSampling.Proofs.ConfigReports
import DeviceSampling.Proofs.DoubleRange

namespace DeviceSampling

open Binary64

/-! ## 1. Numbers that are not negative -/

namespace Binary64

/-- A finite double is below zero if its units are. -/
theorem lt_zero_finite (s : Bool) (u : Nat) (hu) :
    (finite s u hu).lt zero = decide (signedUnits s u < 0) := by
  obtain ⟨hz, hzero⟩ := exists_zero_eq
  rw [hzero]
  rfl

/-- An integer that is not negative has a double that is not. -/
theorem ofInt?_nonneg {n : Int} (hn : 0 ≤ n) {x : Binary64} (h : ofInt? n = some x) :
    x.lt zero = false := by
  have hsign : decide (n < 0) = false := by simpa using hn
  unfold ofInt? nearest ofUnits at h
  rw [hsign] at h
  split at h
  · next s u hu hx =>
    cases h
    split at hx
    · cases hx
    · cases hx
      rw [lt_zero_finite]
      simp [signedUnits]
  · cases h

/-- The integer part of a whole number that is not negative is not. -/
theorem truncate_nonneg {x : Binary64} {n : Int} (hx : x.lt zero = false)
    (h : x.truncate = .ok n) : 0 ≤ n := by
  cases x with
  | nan => cases h
  | infinite s => cases h
  | finite s u hu =>
    cases h
    rw [lt_zero_finite, decide_eq_false_iff_not, Int.not_lt] at hx
    cases s with
    | false => exact Int.natCast_nonneg _
    | true =>
      have hzero : u = 0 := by
        simp [signedUnits] at hx
        omega
      simp [signedUnits, hzero]

end Binary64

/-! ## 2. Policies -/

/-- The numbers of a policy are of their kinds, and not below zero. -/
structure ValidPolicy (own : List (Value × Value)) : Prop where
  retries : ∀ v, Value.lookup "max_retries" own = some v →
    Kind.integer.Is v ∧ ¬ Constraint.notNegative.Broken v
  delay : ∀ v, Value.lookup "delay_s" own = some v →
    Kind.number.Is v ∧ ¬ Constraint.notNegative.Broken v

/-- The delay is an integer beyond the doubles. -/
def DelayTooLarge (own : List (Value × Value)) : Prop :=
  ∃ n, Value.lookup "delay_s" own = some (.int n) ∧ wholeLimit ≤ n.natAbs

/-- A number of retries that is an integer and not below zero. -/
theorem integer?_nonneg {v : Value} (hv : ¬ Constraint.notNegative.Broken v) {n : Int}
    (h : v.integer? = some n) : 0 ≤ n := by
  cases v with
  | int m =>
    cases h
    by_contra hneg
    exact hv (Or.inl ⟨n, Int.not_le.1 hneg, rfl⟩)
  | double x =>
    simp only [Value.integer?] at h
    split at h
    · have hx : x.lt zero = false := by
        by_contra hlt
        exact hv (Or.inr ⟨x, rfl, by simpa using hlt⟩)
      cases ht : x.truncate with
      | error e =>
        rw [ht] at h
        cases h
      | ok m =>
        rw [ht] at h
        cases h
        exact truncate_nonneg hx ht
    · cases h
  | _ => cases h

section Policies

variable {entries : List (Value × Value)} {name : String} (default : PollingPolicy)

/-- The retries of a policy, those of the default if there are none. -/
theorem retries_nonneg {own : List (Value × Value)} (h : ValidPolicy own) :
    0 ≤ ((Value.lookup "max_retries" own).bind Value.integer?).getD default.maxRetries := by
  cases hl : Value.lookup "max_retries" own with
  | none => simp
  | some v =>
    cases hn : v.integer? with
    | none => simp [hn]
    | some n => simpa [hn] using integer?_nonneg (h.retries v hl).2 hn

/-- The delay of a policy is a double that is not negative, unless it is too large. -/
theorem delay_cases {own : List (Value × Value)} (h : ValidPolicy own) :
    (DelayTooLarge own ∧ (((Value.lookup "delay_s" own).bind Value.quantity?).getD
        (.double default.delay)).toDouble? = none) ∨
      (¬ DelayTooLarge own ∧ ∃ d, (((Value.lookup "delay_s" own).bind Value.quantity?).getD
        (.double default.delay)).toDouble? = some d ∧ d.lt zero = false) := by
  unfold DelayTooLarge
  cases hl : Value.lookup "delay_s" own with
  | none => exact Or.inr ⟨by simp, default.delay, rfl, default.delay_nonneg⟩
  | some v =>
    obtain ⟨hkind, hneg⟩ := h.delay v hl
    rcases hkind with ⟨n, rfl⟩ | ⟨x, rfl⟩
    · have hn : 0 ≤ n := by
        by_contra hlt
        exact hneg (Or.inl ⟨n, Int.not_le.1 hlt, rfl⟩)
      simp only [Option.bind_some, Value.quantity?, Option.getD_some, Quantity.toDouble?]
      by_cases hlimit : wholeLimit ≤ n.natAbs
      · exact Or.inl ⟨⟨n, rfl, hlimit⟩, ofInt?_eq_none_iff.2 hlimit⟩
      · obtain ⟨d, hd⟩ := Option.ne_none_iff_exists'.1 fun hnone =>
          hlimit (ofInt?_eq_none_iff.1 hnone)
        refine Or.inr ⟨?_, d, hd, ofInt?_nonneg hn hd⟩
        rintro ⟨m, hm, hle⟩
        cases hm
        exact hlimit hle
    · refine Or.inr ⟨?_, x, rfl, ?_⟩
      · rintro ⟨m, hm, -⟩
        cases hm
      · by_contra hlt
        exact hneg (Or.inr ⟨x, rfl, by simpa using hlt⟩)

/-- **What is wrong with a policy without mistakes:** nothing, unless its delay is too large. -/
theorem policyField_of_valid (h : ValidPolicy (sectionEntries entries name)) :
    (DelayTooLarge (sectionEntries entries name) ∧
        policyField entries name default = .error .integerTooLarge) ∨
      (¬ DelayTooLarge (sectionEntries entries name) ∧
        ∃ p, policyField entries name default = .ok p) := by
  unfold policyField
  generalize sectionEntries entries name = own at h ⊢
  cases hempty : own.isEmpty with
  | true =>
    obtain rfl := List.isEmpty_iff.1 hempty
    refine Or.inr ⟨?_, default, rfl⟩
    rintro ⟨n, hn, -⟩
    cases hn
  | false =>
    have hretries := retries_nonneg default h
    rcases delay_cases default h with ⟨hlarge, hd⟩ | ⟨hsmall, d, hd, hneg⟩
    · refine Or.inl ⟨hlarge, ?_⟩
      simp [hempty, hd]
    · refine Or.inr ⟨hsmall, ?_⟩
      simp [hempty, hd, PollingPolicy.make, hneg, Int.not_lt.2 hretries]

end Policies

/-! ## 3. Mappings without mistakes -/

section Mappings

variable {entries : List (Value × Value)}

theorem lookup_entries (v : Option Value) (name : String) :
    Value.lookup name ((v.bind Value.entries?).getD []) =
      (v.bind Value.entries?).bind (Value.lookup name) := by
  cases v.bind Value.entries? with
  | none => rfl
  | some es => rfl

/-- What stands under a name of a policy is what is at its path. -/
theorem lookup_policy (policy name : String) :
    Value.lookup name (sectionEntries (sectionEntries entries "simpleperf") policy) =
      (Value.mapping entries).at? ["simpleperf", policy, name] := by
  have hroot : (Value.mapping entries).entries? = some entries := rfl
  rw [sectionEntries, lookup_entries, sectionEntries, lookup_entries]
  simp [Value.at?, hroot, Option.bind_assoc]

/-- A delay in a configuration that is an integer beyond the doubles. -/
def HugeDelay (entries : List (Value × Value)) : Prop :=
  ∃ policy ∈ ["start_wait", "stop_wait"], ∃ n,
    (Value.mapping entries).at? ["simpleperf", policy, "delay_s"] = some (.int n) ∧
      wholeLimit ≤ n.natAbs

theorem hugeDelay_iff :
    HugeDelay entries ↔
      DelayTooLarge (sectionEntries (sectionEntries entries "simpleperf") "start_wait") ∨
        DelayTooLarge (sectionEntries (sectionEntries entries "simpleperf") "stop_wait") := by
  simp [HugeDelay, DelayTooLarge, lookup_policy]

/-- A policy in a mapping without mistakes has valid numbers. -/
theorem validPolicy_of_no_mistake
    (h : ∀ path problem, ¬ Mistake (.mapping entries) path problem) {policy : String}
    (hp : policy ∈ ["start_wait", "stop_wait"]) :
    ValidPolicy (sectionEntries (sectionEntries entries "simpleperf") policy) := by
  have hfields : ∀ policy ∈ ["start_wait", "stop_wait"],
      (["simpleperf", policy, "max_retries"], [.kinds [.integer], .notNegative]) ∈ configFields ∧
        (["simpleperf", policy, "delay_s"], [.kinds [.number], .notNegative]) ∈ configFields := by
    decide
  obtain ⟨hretries, hdelay⟩ := hfields policy hp
  have hvalid : ∀ {name : String} {k : Kind} {v : Value},
      (["simpleperf", policy, name], [.kinds [k], .notNegative]) ∈ configFields →
        Value.lookup name (sectionEntries (sectionEntries entries "simpleperf") policy) = some v →
          k.Is v ∧ ¬ Constraint.notNegative.Broken v := by
    intro name k v hplace hl
    rw [lookup_policy] at hl
    constructor
    · by_contra hk
      exact h _ _ (.field hplace hl List.mem_cons_self fun k' hk' =>
        List.mem_singleton.1 hk' ▸ hk)
    · intro hneg
      exact h _ _ (.field hplace hl (List.mem_cons_of_mem _ List.mem_cons_self) hneg)
  exact ⟨fun v hl => hvalid hretries hl, fun v hl => hvalid hdelay hl⟩

/-- **A mapping without mistakes is a configuration,** unless a delay of it is beyond the doubles. -/
theorem ofEntries_of_no_mistake (h : ∀ path problem, ¬ Mistake (.mapping entries) path problem) :
    (HugeDelay entries ∧ Config.ofEntries entries = .error .integerTooLarge) ∨
      (¬ HugeDelay entries ∧ ∃ c, Config.ofEntries entries = .ok c) := by
  have hnone : configViolations (.mapping entries) = [] := by
    by_contra hne
    obtain ⟨path, problem, hm⟩ := configViolations_ne_nil_iff.1 hne
    exact h path problem hm
  have hstart := policyField_of_valid defaultStartWait
    (validPolicy_of_no_mistake h (by decide : "start_wait" ∈ ["start_wait", "stop_wait"]))
  have hstop := policyField_of_valid defaultStopWait
    (validPolicy_of_no_mistake h (by decide : "stop_wait" ∈ ["start_wait", "stop_wait"]))
  rw [hugeDelay_iff]
  simp only [Config.ofEntries, hnone, List.any_nil, Bool.false_eq_true, if_false,
    List.isEmpty_nil, Bool.not_true, SamplerConfig.ofEntries]
  rcases hstart with ⟨hlarge, hs⟩ | ⟨hsmall, p, hs⟩
  · rw [hs]
    exact Or.inl ⟨Or.inl hlarge, rfl⟩
  · rw [hs]
    rcases hstop with ⟨hlarge', hs'⟩ | ⟨hsmall', p', hs'⟩
    · refine Or.inl ⟨Or.inr hlarge', ?_⟩
      rw [hs']
      rfl
    · refine Or.inr ⟨not_or.2 ⟨hsmall, hsmall'⟩, ?_⟩
      rw [hs']
      exact ⟨_, rfl⟩

/-- A mapping with a mistake is reported, or cannot be. -/
theorem ofEntries_of_mistake {path : List String} {problem : Problem}
    (h : Mistake (.mapping entries) path problem) :
    (∃ vs, Config.ofEntries entries = .error (.invalid vs)) ∨
      Config.ofEntries entries = .error .overlongQuote := by
  by_cases hquoted : ∀ x ∈ configViolations (.mapping entries), x.problem.overlong = false
  · exact Or.inl ⟨_, ofEntries_eq_invalid_iff.2
      ⟨rfl, configViolations_ne_nil_iff.2 ⟨path, problem, h⟩, hquoted⟩⟩
  · exact Or.inr (ofEntries_eq_overlongQuote_iff.2 (by simpa using hquoted))

/-- A mapping fails for a number exactly if it has no mistake and a delay beyond the doubles. -/
theorem ofEntries_eq_integerTooLarge_iff :
    Config.ofEntries entries = .error .integerTooLarge ↔
      (∀ path problem, ¬ Mistake (.mapping entries) path problem) ∧ HugeDelay entries := by
  constructor
  · intro h
    have hnone : ∀ path problem, ¬ Mistake (.mapping entries) path problem := by
      intro path problem hm
      rcases ofEntries_of_mistake hm with ⟨vs, hvs⟩ | hlong
      · rw [h] at hvs
        cases hvs
      · rw [h] at hlong
        cases hlong
    rcases ofEntries_of_no_mistake hnone with ⟨hhuge, -⟩ | ⟨-, c, hc⟩
    · exact ⟨hnone, hhuge⟩
    · rw [h] at hc
      cases hc
  · rintro ⟨hnone, hhuge⟩
    rcases ofEntries_of_no_mistake hnone with ⟨-, hfault⟩ | ⟨hnot, -⟩
    · exact hfault
    · exact absurd hhuge hnot

end Mappings

/-! ## 4. Texts within reach -/

/-- What a token does to the depth of a text. -/
inductive Bracket where
  | opening
  | closing
  deriving DecidableEq, Repr

/-- How many brackets are open at most, with so many open around. -/
def nesting : Nat → List Bracket → Nat
  | around, [] => around
  | around, .opening :: rest => nesting (around + 1) rest
  | around, .closing :: rest => max around (nesting (around - 1) rest)

/-- The bracket that a token is. -/
def Json.Token.bracket? : Json.Token → Option Bracket
  | .mark '[' | .mark '\x7b' => some .opening
  | .mark ']' | .mark '\x7d' => some .closing
  | _ => none

/-- The bracket that a token is: what indentation opens and closes counts too. -/
def Yaml.Token.bracket? : Yaml.Token → Option Bracket
  | .blockSequence | .blockMapping | .flowSequence | .flowMapping => some .opening
  | .blockEnd | .flowSequenceEnd | .flowMappingEnd => some .closing
  | _ => none

/-- Whether a token is an alias. -/
def Yaml.Token.isAlias : Yaml.Token → Bool
  | .alias _ => true
  | _ => false

/-- **How deep a text leads into recursion.**  The nodes of a YAML text lead through each of its
aliases once at most before they come round, and from one alias to the next no deeper than its
brackets nest. -/
def ConfigFormat.depth (format : ConfigFormat) (text : List Char) : Nat :=
  match format with
  | .json => nesting 0 ((Json.tokens text).filterMap fun t => t.token.bracket?)
  | .yaml =>
    let tokens := Yaml.tokens text
    nesting 0 (tokens.filterMap Yaml.Token.bracket?) * (tokens.countP Yaml.Token.isAlias + 1)

-- A block mapping with an alias in a flow sequence: two brackets deep, and that once more through it.
example : ConfigFormat.yaml.depth "a: [&x b, *x]\n".toList = 4 := by decide

/-- The depth up to which a text is within reach.  A reader makes four calls at most for each bracket,
and an interpreter as a rule lets a thousand calls stand. -/
def depthLimit : Nat := 200

/-- The text of a file: what its bytes are in UTF-8, with line feeds at the ends of its lines. -/
def HasText (files : FileTree) (path : HostPath) (text : List Char) : Prop :=
  ∃ place content cs, files.resolve path = .file place content ∧
    Text.Utf8.decode content = .ok cs ∧ text = Text.unifyBreaks cs

/-- The text at a path is within reach.  Where no file of a known format is, there is nothing to
reach. -/
def WithinReach (files : FileTree) (path : HostPath) : Prop :=
  ∀ text format, HasText files path text → ConfigFormat.ofPath? path = some format →
    format.depth text ≤ depthLimit

/-! ## 5. Faults that break a run off -/

open CommandLine

/-- The faults of YAML that are not of the value of a number or a time: a text that is no YAML, a
value key that leads back to its own mapping, an escape far too large, no truth value, and numbers
and timestamps that are no such texts at all. -/
inductive YamlBreaks : Yaml.ReadFault → Prop
  | malformed : YamlBreaks .malformed
  | endless : YamlBreaks .endless
  | hugeCharacter : YamlBreaks .hugeCharacter
  | truth {word} : YamlBreaks (.scalar (.truth word))
  | nothing : YamlBreaks (.scalar .nothing)
  | weight : YamlBreaks (.scalar .weight)
  | timestamp : YamlBreaks (.scalar .timestamp)
  | timestampText : YamlBreaks (.scalar .timestampText)

theorem yamlBreaks_iff (fault : Yaml.ReadFault) : YamlBreaks fault ↔ fault.isBadValue = false := by
  constructor
  · intro h
    cases h <;> rfl
  · intro h
    cases fault with
    | malformed => exact .malformed
    | endless => exact .endless
    | hugeCharacter => exact .hugeCharacter
    | noCharacter => cases h
    | version _ => cases h
    | scalar fault =>
      cases fault with
      | truth word => exact .truth
      | nothing => exact .nothing
      | weight => exact .weight
      | timestamp => exact .timestamp
      | timestampText => exact .timestampText
      | integer _ => cases h
      | double _ => cases h
      | calendar _ => cases h

/-- The user may not open what is at a path: it is closed, or below a closed directory. -/
inductive Closed (files : FileTree) (path : HostPath) : Prop
  | file {place} : files.resolve path = .closedFile place → Closed files path
  | directory {place} : files.resolve path = .closedDirectory place → Closed files path
  | above : files.resolve path = .throughClosed → Closed files path

/-- **The faults that break a run off,** by what is at the path of the configuration file. -/
inductive BreaksOff (files : FileTree) (path : HostPath) : ConfigFileFault → Prop
  | tooLong : files.resolve path = .tooLong → BreaksOff files path (.tooLong path)
  | denied : Closed files path → BreaksOff files path (.denied path)
  | directory {place} : files.resolve path = .directory place →
      BreaksOff files path (.isDirectory path)
  /-- The text of a YAML file is within reach and at fault. -/
  | yaml {text fault} : HasText files path text → ConfigFormat.ofPath? path = some .yaml →
      ConfigFormat.yaml.depth text ≤ depthLimit →
      Yaml.readChars text = .error fault → YamlBreaks fault → BreaksOff files path (.yaml fault)
  /-- A file within reach holds a mapping without mistakes, and in it a delay beyond the doubles. -/
  | delay {text format entries} : HasText files path text →
      ConfigFormat.ofPath? path = some format → format.depth text ≤ depthLimit →
      format.decode text = .ok (.mapping entries) →
      (∀ place problem, ¬ Mistake (.mapping entries) place problem) → HugeDelay entries →
      BreaksOff files path (.config path .integerTooLarge)

section Loading

variable {files : FileTree} {path : HostPath}

theorem readText_eq_ok_iff {text : List Char} :
    files.readText path = .ok text ↔ HasText files path text := by
  unfold FileTree.readText HasText
  constructor
  · intro h
    split at h
    · next place content hr =>
      split at h
      · next cs hd =>
        cases h
        exact ⟨place, content, cs, hr, hd, rfl⟩
      · cases h
    all_goals cases h
  · rintro ⟨place, content, cs, hr, hd, rfl⟩
    rw [hr]
    simp only [hd]

/-- A text that is loaded as a configuration, or not. -/
theorem load_of_hasText {text : List Char} (h : HasText files path text) :
    Config.load files path =
      match ConfigFormat.ofPath? path with
      | none => .error (.unknownFormat path)
      | some format =>
        match format.decode text with
        | .error fault => .error fault
        | .ok v => Config.ofValue path v := by
  simp only [Config.load, readText_eq_ok_iff.2 h, bind, Except.bind]
  cases ConfigFormat.ofPath? path with
  | none => rfl
  | some format =>
    cases hd : format.decode text with
    | error fault => simp only [hd]
    | ok v => simp only [hd]

theorem load_of_readText_error {fault : ConfigFileFault} (h : files.readText path = .error fault) :
    Config.load files path = .error fault := by
  simp only [Config.load, h, bind, Except.bind]

/-- A text that is not decoded is at fault in its own format. -/
theorem decode_eq_error {format : ConfigFormat} {text : List Char} {fault : ConfigFileFault}
    (h : format.decode text = .error fault) :
    (∃ f, fault = .json text f) ∨
      (format = .yaml ∧ ∃ f, Yaml.readChars text = .error f ∧ fault = .yaml f) := by
  cases format with
  | json =>
    simp only [ConfigFormat.decode] at h
    split at h
    · cases h
    · next f _ =>
      cases h
      exact Or.inl ⟨f, rfl⟩
  | yaml =>
    simp only [ConfigFormat.decode] at h
    split at h
    · cases h
    · next f hf =>
      cases h
      exact Or.inr ⟨rfl, f, hf, rfl⟩

/-- A decoded value is no configuration because it is no mapping, or because its entries are at
fault. -/
theorem ofValue_eq_error {v : Value} {fault : ConfigFileFault}
    (h : Config.ofValue path v = .error fault) :
    fault = .notMapping path ∨
      ∃ entries f, v = .mapping entries ∧ Config.ofEntries entries = .error f ∧
        fault = .config path f := by
  cases v with
  | mapping entries =>
    simp only [Config.ofValue] at h
    split at h
    · cases h
    · next f hf =>
      cases h
      exact Or.inr ⟨entries, f, rfl, hf, rfl⟩
  | _ =>
    cases h
    exact Or.inl rfl

/-- What is closed has no text. -/
theorem readText_of_closed (h : Closed files path) : files.readText path = .error (.denied path) := by
  cases h with
  | file hr | directory hr | above hr => rw [FileTree.readText, hr]

/-- A path without a text breaks the run off, or the user is told of it. -/
theorem breaksOff_of_readText {fault : ConfigFileFault} (h : files.readText path = .error fault)
    (htells : tellsUsage fault = false) : BreaksOff files path fault := by
  unfold FileTree.readText at h
  split at h
  · split at h
    · cases h
    · cases h
      cases htells
  · next place hr =>
    cases h
    exact .directory hr
  · next place hr =>
    cases h
    exact .denied (.directory hr)
  · next place hr =>
    cases h
    exact .denied (.file hr)
  · next hr =>
    cases h
    exact .denied (.above hr)
  · next hr =>
    cases h
    exact .tooLong hr
  all_goals
    cases h
    cases htells

/-- A text within reach that is no configuration breaks the run off, or the user is told of it. -/
theorem breaksOff_of_hasText (hreach : WithinReach files path) {text : List Char}
    {fault : ConfigFileFault} (htext : HasText files path text)
    (h : Config.load files path = .error fault) (htells : tellsUsage fault = false) :
    BreaksOff files path fault := by
  rw [load_of_hasText htext] at h
  cases hformat : ConfigFormat.ofPath? path with
  | none =>
    rw [hformat] at h
    cases h
    cases htells
  | some format =>
    simp only [hformat] at h
    have hdepth := hreach text format htext hformat
    cases hdecode : format.decode text with
    | error f =>
      simp only [hdecode] at h
      cases h
      rcases decode_eq_error hdecode with ⟨f, rfl⟩ | ⟨rfl, f, hread, rfl⟩
      · cases htells
      · exact .yaml htext hformat hdepth hread ((yamlBreaks_iff f).2 htells)
    | ok v =>
      simp only [hdecode] at h
      rcases ofValue_eq_error h with rfl | ⟨entries, f, rfl, hf, rfl⟩
      · cases htells
      · cases f with
        | integerTooLarge =>
          obtain ⟨hnone, hhuge⟩ := ofEntries_eq_integerTooLarge_iff.1 hf
          exact .delay htext hformat hdepth hdecode hnone hhuge
        | invalid _ => cases htells
        | overlongQuote => cases htells
        | policy _ => cases htells

/-- **A fault breaks a run off** exactly if it is one of loading, and the user is not told of it as of
a wrong usage. -/
theorem breaksOff_iff (hreach : WithinReach files path) {fault : ConfigFileFault} :
    BreaksOff files path fault ↔
      Config.load files path = .error fault ∧ tellsUsage fault = false := by
  constructor
  · intro h
    cases h with
    | tooLong hr => exact ⟨load_of_readText_error (by rw [FileTree.readText, hr]), rfl⟩
    | denied hclosed => exact ⟨load_of_readText_error (readText_of_closed hclosed), rfl⟩
    | directory hr => exact ⟨load_of_readText_error (by rw [FileTree.readText, hr]), rfl⟩
    | yaml htext hformat _ hread hbreaks =>
      refine ⟨?_, (yamlBreaks_iff _).1 hbreaks⟩
      simp only [load_of_hasText htext, hformat, ConfigFormat.decode, hread]
    | delay htext hformat _ hdecode hnone hhuge =>
      refine ⟨?_, rfl⟩
      simp only [load_of_hasText htext, hformat, hdecode, Config.ofValue,
        ofEntries_eq_integerTooLarge_iff.2 ⟨hnone, hhuge⟩]
  · rintro ⟨h, htells⟩
    cases htext : files.readText path with
    | error f =>
      rw [load_of_readText_error htext] at h
      cases h
      exact breaksOff_of_readText htext htells
    | ok text => exact breaksOff_of_hasText hreach (readText_eq_ok_iff.1 htext) h htells

end Loading

/-! ## 6. Runs -/

/-- **How a run with a configuration file begins** whose text is within reach.  If the file holds a
configuration, the run goes on with it to its command.  If not, the run ends before any command: it
breaks off if the fault is one of those that `BreaksOff` lists, and of any other fault the user is
told as of a wrong usage.  A fault of that list always is the fault of the file. -/
theorem run_of_configFile (inv : Invocation) (given : Bool) (files : FileTree) (path : HostPath)
    (hpath : inv.config = some path) (hreach : WithinReach files path) :
    (∃ config, Config.load files path = .ok config ∧
        inv.run given files =
          (inv.command.run config.sampler (inv.device given config.adb)).bind
            fun code => .done (.exit code)) ∨
      (∃ fault, Config.load files path = .error fault ∧
        ((BreaksOff files path fault ∧ inv.run given files = .done (.brokenConfig fault)) ∨
          ((∀ fault, ¬ BreaksOff files path fault) ∧
            inv.run given files = .done (.usage fault.message)))) := by
  have hsettings : inv.settings files = Config.load files path := by
    unfold Invocation.settings
    rw [hpath]
  cases hload : Config.load files path with
  | ok config =>
    refine Or.inl ⟨config, rfl, ?_⟩
    unfold Invocation.run
    rw [hsettings, hload]
    rfl
  | error fault =>
    refine Or.inr ⟨fault, rfl, ?_⟩
    have hrun : inv.run given files =
        .done (if tellsUsage fault then .usage fault.message else .brokenConfig fault) := by
      unfold Invocation.run
      rw [hsettings, hload]
    cases htells : tellsUsage fault with
    | false =>
      refine Or.inl ⟨(breaksOff_iff hreach).2 ⟨hload, htells⟩, ?_⟩
      rw [hrun, htells]
      rfl
    | true =>
      refine Or.inr ⟨fun f hf => ?_, ?_⟩
      · obtain ⟨hload', htells'⟩ := (breaksOff_iff hreach).1 hf
        rw [hload] at hload'
        cases hload'
        rw [htells] at htells'
        cases htells'
      · rw [hrun, htells]
        rfl

/-- A tree with one file, `c.yaml`, beside which nothing is. -/
def soleYaml (content : List UInt8) : FileTree := ⟨[(["c.yaml"], .file content)]⟩

/-- The command `status` with the settings of `c.yaml`. -/
def statusOfYaml : Invocation := { config := some ⟨"", ["c.yaml"]⟩, command := .status }

/-- One word and no bracket. -/
theorem withinReach_loneWord : WithinReach (soleYaml [120, 10]) ⟨"", ["c.yaml"]⟩ := by
  intro text format htext hformat
  have hword : (soleYaml [120, 10]).readText ⟨"", ["c.yaml"]⟩ = .ok ['x', '\n'] := rfl
  rw [readText_eq_ok_iff.2 htext] at hword
  cases hword
  cases hformat
  decide

/-- Of a file that holds one word and no mapping the user is told as of a wrong usage. -/
theorem run_of_configFile_loneWord :
    statusOfYaml.config = some ⟨"", ["c.yaml"]⟩ ∧
      WithinReach (soleYaml [120, 10]) ⟨"", ["c.yaml"]⟩ ∧
      (∀ fault, ¬ BreaksOff (soleYaml [120, 10]) ⟨"", ["c.yaml"]⟩ fault) ∧
      statusOfYaml.run true (soleYaml [120, 10]) =
        .done (.usage "Collector config must be a mapping: c.yaml") := by
  have hload : Config.load (soleYaml [120, 10]) ⟨"", ["c.yaml"]⟩ =
      .error (.notMapping ⟨"", ["c.yaml"]⟩) := rfl
  refine ⟨rfl, withinReach_loneWord, ?_⟩
  rcases run_of_configFile statusOfYaml true (soleYaml [120, 10]) ⟨"", ["c.yaml"]⟩ rfl
      withinReach_loneWord with
    ⟨config, hok, -⟩ | ⟨fault, hfault, ⟨hbreaks, -⟩ | ⟨hnone, hrun⟩⟩
  · rw [hload] at hok
    cases hok
  · have htells := ((breaksOff_iff withinReach_loneWord).1 hbreaks).2
    rw [hload] at hfault
    cases hfault
    cases htells
  · rw [hload] at hfault
    cases hfault
    exact ⟨hnone, hrun⟩

/-- Not every file without a configuration is a wrong usage: on the text `adb: [`, a list that does
not end, the run breaks off. -/
theorem run_of_configFile_openList :
    ¬ ∀ (inv : Invocation) (given : Bool) (files : FileTree) (path : HostPath),
      inv.config = some path →
        (∃ config, Config.load files path = .ok config) ∨
          ∃ message, inv.run given files = .done (.usage message) := by
  intro h
  have hload : Config.load (soleYaml [97, 100, 98, 58, 32, 91, 10]) ⟨"", ["c.yaml"]⟩ =
      .error (.yaml .malformed) := rfl
  have hrun : statusOfYaml.run true (soleYaml [97, 100, 98, 58, 32, 91, 10]) =
      .done (.brokenConfig (.yaml .malformed)) := rfl
  rcases h statusOfYaml true (soleYaml [97, 100, 98, 58, 32, 91, 10]) ⟨"", ["c.yaml"]⟩ rfl with
    ⟨config, hok⟩ | ⟨message, husage⟩
  · rw [hload] at hok
    cases hok
  · rw [hrun] at husage
    cases husage

end DeviceSampling
