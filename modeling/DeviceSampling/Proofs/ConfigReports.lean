/-
# Every mistake of a configuration is reported, on a line of its own

What a configuration must look like is told here once more, flat and by its meaning: which names
each object may have, and which constraints stand on each field.  A MISTAKE is a constraint that is
broken at a path, with the value there.  The report of a mapping has one line for each mistake, in
the order of the paths, and no quoted value breaks a line.  There is one exception: where a line would
quote an integer of more than 4300 digits, there is no report at all.

* `Kind.Is`, `Constraint.Broken`: what the constraints mean;
* `configObjects`, `configFields`, `Mistake`: the constraints of a configuration;
* `mem_configViolations`, `nodup_configViolations`, `sorted_configViolations`: the violations are
  the mistakes, once each and in order;
* `lines_message`: a report has a line for each violation;
* `ofEntries_reports`: **what is reported, and when.**
-/
import Mathlib.Data.List.Lex
import Mathlib.Data.String.Basic
import DeviceSampling.Config.Read
import DeviceSampling.Proofs.JsonValues
import DeviceSampling.Proofs.SchemaPlaces
import DeviceSampling.Proofs.ShownValues

namespace DeviceSampling

/-! ## 1. What the constraints mean -/

/-- What it is to be of a kind.  A truth value is no number, and a double is an integer if it has
the value of one. -/
def Kind.Is : Kind → Value → Prop
  | .text, v => ∃ s, v = .text s
  | .number, v => (∃ n, v = .int n) ∨ ∃ x, v = .double x
  | .integer, v => (∃ n, v = .int n) ∨ ∃ x n, v = .double x ∧ Value.intEqDouble n x = true
  | .object, v => ∃ entries, v.entries? = some entries
  | .null, v => v = .null

/-- What it is to break a constraint.  Only a text can be empty, and only a number too small. -/
def Constraint.Broken : Constraint → Value → Prop
  | .kinds allowed, v => ∀ k ∈ allowed, ¬ k.Is v
  | .nonEmpty, v => v = .text ""
  | .notNegative, v =>
    (∃ n < 0, v = .int n) ∨ ∃ x, v = .double x ∧ x.lt Binary64.zero = true
  | .positive, v =>
    (∃ n ≤ 0, v = .int n) ∨ ∃ x, v = .double x ∧ x.le Binary64.zero = true

/-- A double is whole if it has the value of an integer. -/
theorem isWhole_iff (x : Binary64) : x.isWhole = true ↔ ∃ n, Value.intEqDouble n x = true := by
  cases x with
  | nan => simp [Binary64.isWhole, Value.intEqDouble]
  | infinite s => simp [Binary64.isWhole, Value.intEqDouble]
  | finite s u h =>
    simp only [Binary64.isWhole, Value.intEqDouble, decide_eq_true_eq]
    rw [← Nat.dvd_iff_mod_eq_zero, ← Int.natCast_dvd_natCast, ← dvd_iff_exists_eq_mul_left]
    cases s with
    | false => rfl
    | true => exact Int.dvd_neg.symm

theorem Kind.admits_iff (k : Kind) (v : Value) : k.admits v = true ↔ k.Is v := by
  cases k with
  | text => cases v <;> simp [admits, Is]
  | number => cases v <;> simp [admits, Is]
  | integer => cases v <;> simp [admits, Is, isWhole_iff]
  | object =>
    cases v with
    | cycle b => cases b <;> simp [admits, Is, Value.entries?]
    | _ => simp [admits, Is, Value.entries?]
  | null => cases v <;> simp [admits, Is]

theorem Constraint.broken_iff (c : Constraint) (v : Value) : c.Broken v ↔ c.holds v = false := by
  cases c with
  | kinds allowed => simp [Broken, holds, ← Kind.admits_iff]
  | nonEmpty => cases v <;> simp [Broken, holds]
  | notNegative => cases v <;> simp [Broken, holds, Value.isBelowZero]
  | positive => cases v <;> simp [Broken, holds, Value.isNotAboveZero]

/-! ## 2. Mistakes -/

/-- The objects of a configuration: where they stand, and the names they may have. -/
def configObjects : List (List String × List String) :=
  [([], ["adb", "simpleperf"]),
    (["adb"], ["adb_path", "serial", "timeout_s"]),
    (["simpleperf"],
      ["binary", "tmp_output_path", "record_timeout_s", "start_wait", "stop_wait"]),
    (["simpleperf", "start_wait"], ["max_retries", "delay_s"]),
    (["simpleperf", "stop_wait"], ["max_retries", "delay_s"])]

/-- The fields of a configuration: where they stand, and their constraints. -/
def configFields : List (List String × List Constraint) :=
  [(["adb", "adb_path"], [.kinds [.text], .nonEmpty]),
    (["adb", "serial"], [.kinds [.text, .null]]),
    (["adb", "timeout_s"], [.kinds [.number], .positive]),
    (["simpleperf", "binary"], [.kinds [.text], .nonEmpty]),
    (["simpleperf", "tmp_output_path"], [.kinds [.text], .nonEmpty]),
    (["simpleperf", "record_timeout_s"], [.kinds [.number, .null]]),
    (["simpleperf", "start_wait", "max_retries"], [.kinds [.integer], .notNegative]),
    (["simpleperf", "start_wait", "delay_s"], [.kinds [.number], .notNegative]),
    (["simpleperf", "stop_wait", "max_retries"], [.kinds [.integer], .notNegative]),
    (["simpleperf", "stop_wait", "delay_s"], [.kinds [.number], .notNegative])]

/-- **A constraint of a configuration that is broken** in a value, with the path to the place.  All
unknown names of an object are one mistake. -/
inductive Mistake (root : Value) : List String → Problem → Prop
  | noObject {path names v} : (path, names) ∈ configObjects → root.at? path = some v →
      ¬ Kind.object.Is v → Mistake root path (.broken (.kinds [.object]) v)
  | unknown {path names v entries key value} : (path, names) ∈ configObjects →
      root.at? path = some v → v.entries? = some entries → (key, value) ∈ entries →
      (∀ name ∈ names, key ≠ .text name) →
      Mistake root path (.unknown (unknownNames names entries))
  | field {path constraints c v} : (path, constraints) ∈ configFields → root.at? path = some v →
      c ∈ constraints → c.Broken v → Mistake root path (.broken c v)

/-- The unknown names are the keys other than those allowed. -/
theorem mem_unknownNames {names : List String} {entries : List (Value × Value)} {key : Value} :
    key ∈ unknownNames names entries ↔
      (∃ value, (key, value) ∈ entries) ∧ ∀ name ∈ names, key ≠ .text name := by
  unfold unknownNames
  rw [List.mem_filter, List.mem_map]
  refine and_congr (by simp) ?_
  cases key with
  | text s =>
    simp only [List.contains_eq_mem, Bool.not_eq_true', decide_eq_false_iff_not, ne_eq,
      Value.text.injEq]
    exact ⟨fun h name hn he => h (he ▸ hn), fun h hs => h s hs rfl⟩
  | _ => simp

/-! ## 3. The violations are the mistakes -/

/-- The path of an object and its names. -/
def objectAt? : List String × Schema → Option (List String × List String)
  | (path, .object fields) => some (path, fields.map Prod.fst)
  | _ => none

/-- The path of a field and its constraints. -/
def fieldAt? : List String × Schema → Option (List String × List Constraint)
  | (path, .field constraints) => some (path, constraints)
  | _ => none

theorem filterMap_objectAt? : configSchema.places.filterMap objectAt? = configObjects := rfl

theorem filterMap_fieldAt? : configSchema.places.filterMap fieldAt? = configFields := rfl

theorem mem_configObjects {path names : List String} :
    (path, names) ∈ configObjects ↔
      ∃ fields, (path, .object fields) ∈ configSchema.places ∧ fields.map Prod.fst = names := by
  rw [← filterMap_objectAt?, List.mem_filterMap]
  constructor
  · rintro ⟨⟨p, s⟩, hs, h⟩
    cases s with
    | field constraints => cases h
    | object fields =>
      cases h
      exact ⟨fields, hs, rfl⟩
  · rintro ⟨fields, hs, rfl⟩
    exact ⟨_, hs, rfl⟩

theorem mem_configFields {path : List String} {constraints : List Constraint} :
    (path, constraints) ∈ configFields ↔ (path, .field constraints) ∈ configSchema.places := by
  rw [← filterMap_fieldAt?, List.mem_filterMap]
  constructor
  · rintro ⟨⟨p, s⟩, hs, h⟩
    cases s with
    | object fields => cases h
    | field constraints =>
      cases h
      exact hs
  · intro hs
    exact ⟨_, hs, rfl⟩

/-- **The violations of a configuration are its mistakes.** -/
theorem mem_configViolations {root : Value} {path : List String} {problem : Problem} :
    ⟨path, problem⟩ ∈ configViolations root ↔ Mistake root path problem := by
  rw [configViolations, List.mem_mergeSort, Schema.mem_violations]
  constructor
  · rintro ⟨⟨p, s⟩, hs, v, hv, hx⟩
    cases s with
    | field constraints =>
      obtain ⟨c, hc, hbroken, h⟩ := Schema.mem_violationsHere_field.1 hx
      cases h
      exact .field (mem_configFields.2 hs) hv hc ((c.broken_iff v).2 hbroken)
    | object fields =>
      have hplace := mem_configObjects.2 ⟨fields, hs, rfl⟩
      rcases Schema.mem_violationsHere_object.1 hx with ⟨hn, h⟩ | ⟨entries, he, hne, h⟩
      · cases h
        refine .noObject hplace hv ?_
        rintro ⟨entries, he⟩
        rw [hn] at he
        cases he
      · cases h
        obtain ⟨key, hkey⟩ := List.exists_mem_of_ne_nil _ hne
        obtain ⟨⟨value, hmem⟩, hother⟩ := mem_unknownNames.1 hkey
        exact .unknown hplace hv he hmem hother
  · intro h
    cases h with
    | @noObject names v hplace hv hno =>
      obtain ⟨fields, hs, -⟩ := mem_configObjects.1 hplace
      have hn : v.entries? = none := by
        cases he : v.entries? with
        | none => rfl
        | some entries => exact absurd ⟨entries, he⟩ hno
      exact ⟨_, hs, v, hv, Schema.mem_violationsHere_object.2 (Or.inl ⟨hn, rfl⟩)⟩
    | @unknown names v entries key value hplace hv he hmem hother =>
      obtain ⟨fields, hs, rfl⟩ := mem_configObjects.1 hplace
      have hne := List.ne_nil_of_mem (mem_unknownNames.2 ⟨⟨value, hmem⟩, hother⟩)
      exact ⟨_, hs, v, hv, Schema.mem_violationsHere_object.2 (Or.inr ⟨entries, he, hne, rfl⟩)⟩
    | @field constraints c v hplace hv hc hbroken =>
      exact ⟨_, mem_configFields.1 hplace, v, hv,
        Schema.mem_violationsHere_field.2 ⟨c, hc, (c.broken_iff v).1 hbroken, rfl⟩⟩

/-- **Each constraint of a place is reported once.** -/
theorem nodup_configViolations (root : Value) :
    ((configViolations root).map Violation.about).Nodup := by
  have hpaths : (configSchema.places.map Prod.fst).Nodup := by decide
  have honce : ∀ q ∈ configSchema.places, q.2.OnceEach := by decide
  have hperm := (List.mergeSort_perm (configSchema.violations [] root)
    fun a b => !decide (b.path < a.path)).map Violation.about
  exact hperm.nodup_iff.2 (Schema.nodup_violations hpaths honce root)

/-- **The violations are in the order of their paths,** compared name by name. -/
theorem sorted_configViolations (root : Value) :
    (configViolations root).Pairwise fun x y => x.path ≤ y.path := by
  have htrans : ∀ a b c : Violation, (!decide (b.path < a.path)) = true →
      (!decide (c.path < b.path)) = true → (!decide (c.path < a.path)) = true := by
    intro a b c hab hbc
    simp only [Bool.not_eq_true', decide_eq_false_iff_not, not_lt] at hab hbc ⊢
    exact hab.trans hbc
  have htotal : ∀ a b : Violation,
      (!decide (b.path < a.path) || !decide (a.path < b.path)) = true := by
    intro a b
    simp only [Bool.or_eq_true, Bool.not_eq_true', decide_eq_false_iff_not, not_lt]
    exact le_total a.path b.path
  have hsorted := List.pairwise_mergeSort htrans htotal (configSchema.violations [] root)
  refine hsorted.imp fun {x y} h => ?_
  simpa using h

/-! ## 4. Lines -/

open Text

theorem oneLine_shown (v : Value) : OneLine v.shown.toList := by
  rw [Value.shown, String.toList_ofList]
  exact Value.oneLine_chars v

/-- Texts without a boundary, joined by one. -/
theorem oneLine_join {sep : String} {parts : List String} (hsep : OneLine sep.toList)
    (h : ∀ part ∈ parts, OneLine part.toList) : OneLine (sep.intercalate parts).toList := by
  rw [String.toList_intercalate]
  exact oneLine_intercalate hsep (by simpa using h)

/-- A value is shown before the rest of a wording. -/
theorem oneLine_shown_append (v : Value) {rest : String} (h : OneLine rest.toList) :
    OneLine (v.shown ++ rest).toList := by
  rw [String.toList_append]
  exact (oneLine_shown v).append h

theorem oneLine_kindNames (allowed : List Kind) :
    OneLine (", ".intercalate (allowed.map fun k => quote k.name)).toList := by
  refine oneLine_join (by decide) fun part hpart => ?_
  obtain ⟨k, -, rfl⟩ := List.mem_map.1 hpart
  rw [quote, String.toList_ofList]
  exact oneLine_quoteChars k.name.toList

theorem oneLine_names (names : List Value) :
    OneLine (", ".intercalate ((sortedNames names).map Value.shown)).toList := by
  refine oneLine_join (by decide) fun part hpart => ?_
  obtain ⟨v, -, rfl⟩ := List.mem_map.1 hpart
  exact oneLine_shown v

/-- **The wording of a problem stands on one line,** whatever it quotes. -/
theorem oneLine_wording (problem : Problem) : OneLine problem.wording.toList := by
  cases problem with
  | broken c v =>
    cases c with
    | kinds allowed =>
      have hwording : (Problem.broken (.kinds allowed) v).wording = v.shown ++ " is not of type " ++
          ", ".intercalate (allowed.map fun k => quote k.name) := rfl
      rw [hwording, String.toList_append]
      exact (oneLine_shown_append v (by decide)).append (oneLine_kindNames allowed)
    | nonEmpty =>
      show OneLine (v.shown ++ " should be non-empty").toList
      exact oneLine_shown_append v (by decide)
    | notNegative =>
      show OneLine (v.shown ++ " is less than the minimum of 0").toList
      exact oneLine_shown_append v (by decide)
    | positive =>
      show OneLine (v.shown ++ " is less than or equal to the minimum of 0").toList
      exact oneLine_shown_append v (by decide)
  | unknown names =>
    have hbegin : OneLine "Additional properties are not allowed (".toList := by decide
    have hverb : OneLine (if names.length = 1 then " was" else " were").toList := by
      split <;> decide
    have hend : OneLine " unexpected)".toList := by decide
    have hwording : (Problem.unknown names).wording =
        "Additional properties are not allowed (" ++
          ", ".intercalate ((sortedNames names).map Value.shown) ++
          (if names.length = 1 then " was" else " were") ++ " unexpected)" := rfl
    rw [hwording, String.toList_append, String.toList_append, String.toList_append]
    exact ((hbegin.append (oneLine_names names)).append hverb).append hend

/-- The line of a violation has no boundary if its path has none. -/
theorem oneLine_line {x : Violation} (h : ∀ name ∈ x.path, OneLine name.toList) :
    OneLine x.line.toList := by
  have hbegin : OneLine "- config:".toList := by decide
  have hcolon : OneLine ": ".toList := by decide
  have hpath : OneLine ("/".intercalate x.path).toList := oneLine_join (by decide) h
  rw [Violation.line, String.toList_append, String.toList_append, String.toList_append]
  exact ((hbegin.append hpath).append hcolon).append (oneLine_wording x.problem)

/-- **A report has a line for each violation,** and no other. -/
theorem lines_message {vs : List Violation}
    (h : ∀ x ∈ vs, ∀ name ∈ x.path, OneLine name.toList) :
    lines (ConfigFault.invalid vs).message.toList = vs.map fun x => x.line.toList := by
  have hmessage : (ConfigFault.invalid vs).message = "\n".intercalate (vs.map Violation.line) := rfl
  have hfeed : "\n".toList = ['\n'] := by decide
  rw [hmessage, String.toList_intercalate, List.map_map, hfeed]
  refine lines_intercalate fun l hl => ?_
  obtain ⟨x, hx, rfl⟩ := List.mem_map.1 hl
  refine ⟨oneLine_line (h x hx), ?_⟩
  simp [Violation.line]

/-- The names in the paths of a configuration hold no boundary. -/
theorem Mistake.oneLine_path {root : Value} {path : List String} {problem : Problem}
    (h : Mistake root path problem) : ∀ name ∈ path, OneLine name.toList := by
  have hobjects : ∀ q ∈ configObjects, ∀ name ∈ q.1, OneLine name.toList := by decide
  have hfields : ∀ q ∈ configFields, ∀ name ∈ q.1, OneLine name.toList := by decide
  cases h with
  | noObject hplace => exact hobjects _ hplace
  | unknown hplace => exact hobjects _ hplace
  | field hplace => exact hfields _ hplace

/-! ## 5. What a report cannot quote -/

namespace Value

theorem mem_of_lookup {name : String} {v : Value} :
    ∀ {entries : List (Value × Value)}, lookup name entries = some v → (text name, v) ∈ entries
  | (key, w) :: rest, h => by
    cases key with
    | text k =>
      simp only [lookup] at h
      split at h
      · next hk =>
        cases h
        rw [hk]
        exact List.mem_cons_self
      · exact List.mem_cons_of_mem _ (mem_of_lookup h)
    | _ => exact List.mem_cons_of_mem _ (mem_of_lookup h)

/-- The entries of a value that can be quoted can be quoted. -/
theorem entriesOverlong_of_entries? {v : Value} {entries : List (Value × Value)}
    (h : v.overlong = false) (he : v.entries? = some entries) : entriesOverlong entries = false := by
  cases v with
  | mapping es =>
    cases he
    simpa [overlong] using h
  | cycle b =>
    cases b with
    | false => cases he
    | true =>
      cases he
      rfl
  | _ => cases he

/-- What stands in a value that can be quoted can be quoted. -/
theorem overlong_of_at? {path : List String} {v w : Value} (h : v.overlong = false)
    (hw : v.at? path = some w) : w.overlong = false := by
  induction path generalizing v with
  | nil =>
    cases hw
    exact h
  | cons name path ih =>
    obtain ⟨u, hu, hw⟩ := Option.bind_eq_some_iff.1 hw
    obtain ⟨entries, he, hl⟩ := Option.bind_eq_some_iff.1 hu
    have hentries := entriesOverlong_eq_false_iff.1 (entriesOverlong_of_entries? h he)
    exact ih (hentries _ (mem_of_lookup hl)).2 hw

end Value

/-- No mistake in a value that can be quoted needs a quotation that is too long. -/
theorem Mistake.overlong_eq_false {root : Value} {path : List String} {problem : Problem}
    (h : Mistake root path problem) (hroot : root.overlong = false) : problem.overlong = false := by
  cases h with
  | noObject _ hv _ => exact Value.overlong_of_at? hroot hv
  | field _ hv _ _ => exact Value.overlong_of_at? hroot hv
  | @unknown names v entries _ _ _ hv he _ _ =>
    have hentries := Value.entriesOverlong_eq_false_iff.1
      (Value.entriesOverlong_of_entries? (Value.overlong_of_at? hroot hv) he)
    simp only [Problem.overlong, List.any_eq_false, Bool.not_eq_true]
    intro key hkey
    obtain ⟨⟨value, hmem⟩, -⟩ := mem_unknownNames.1 hkey
    exact (hentries _ hmem).1

/-! ## 6. Reports -/

/-- A sampler section that keeps the schema is at fault for a number only. -/
theorem SamplerConfig.ofEntries_error {entries : List (Value × Value)} {fault : ConfigFault}
    (h : SamplerConfig.ofEntries entries = .error fault) :
    fault = .integerTooLarge ∨ ∃ p, fault = .policy p := by
  have hpolicy : ∀ {name : String} {default : PollingPolicy} {fault : ConfigFault},
      policyField entries name default = .error fault →
        fault = .integerTooLarge ∨ ∃ p, fault = .policy p := by
    intro name default fault h
    simp only [policyField] at h
    split at h
    · cases h
    split at h
    · cases h
      exact Or.inl rfl
    split at h
    · cases h
    · next p _ =>
      cases h
      exact Or.inr ⟨p, rfl⟩
  simp only [SamplerConfig.ofEntries] at h
  cases hstart : policyField entries "start_wait" ({} : SamplerConfig).startWait with
  | error f =>
    rw [hstart] at h
    cases h
    exact hpolicy hstart
  | ok startWait =>
    cases hstop : policyField entries "stop_wait" ({} : SamplerConfig).stopWait with
    | error f =>
      rw [hstart, hstop] at h
      cases h
      exact hpolicy hstop
    | ok stopWait =>
      rw [hstart, hstop] at h
      cases h

section Reports

variable {entries : List (Value × Value)}

/-- A mapping without violations has no report, and nothing that a report would quote. -/
theorem ofEntries_of_no_violation (h : configViolations (.mapping entries) = [])
    {fault : ConfigFault} (hf : Config.ofEntries entries = .error fault) :
    fault = .integerTooLarge ∨ ∃ p, fault = .policy p := by
  simp only [Config.ofEntries, h, List.any_nil, Bool.false_eq_true, if_false, List.isEmpty_nil,
    Bool.not_true] at hf
  cases hs : SamplerConfig.ofEntries (sectionEntries entries "simpleperf") with
  | ok sampler =>
    rw [hs] at hf
    cases hf
  | error f =>
    rw [hs] at hf
    cases hf
    exact SamplerConfig.ofEntries_error hs

/-- A mapping is reported if it has violations and all of them can be quoted. -/
theorem ofEntries_eq_invalid_iff {vs : List Violation} :
    Config.ofEntries entries = .error (.invalid vs) ↔
      vs = configViolations (.mapping entries) ∧ vs ≠ [] ∧
        ∀ x ∈ vs, x.problem.overlong = false := by
  constructor
  · intro h
    by_cases hempty : configViolations (.mapping entries) = []
    · rcases ofEntries_of_no_violation hempty h with hf | ⟨p, hf⟩
      · cases hf
      · cases hf
    · simp only [Config.ofEntries] at h
      split at h
      · cases h
      · next hlong =>
        rw [if_pos (by simpa using hempty)] at h
        cases h
        exact ⟨rfl, hempty, by simpa using hlong⟩
  · rintro ⟨rfl, hne, hquoted⟩
    simp only [Config.ofEntries]
    rw [if_neg (by simpa using hquoted), if_pos (by simpa using hne)]

/-- There is no report if a violation cannot be quoted. -/
theorem ofEntries_eq_overlongQuote_iff :
    Config.ofEntries entries = .error .overlongQuote ↔
      ∃ x ∈ configViolations (.mapping entries), x.problem.overlong = true := by
  constructor
  · intro h
    by_contra hnone
    by_cases hempty : configViolations (.mapping entries) = []
    · rcases ofEntries_of_no_violation hempty h with hf | ⟨p, hf⟩
      · cases hf
      · cases hf
    · have hinvalid := ofEntries_eq_invalid_iff.2 ⟨rfl, hempty, by simpa using hnone⟩
      rw [h] at hinvalid
      cases hinvalid
  · rintro ⟨x, hx, hlong⟩
    simp only [Config.ofEntries]
    rw [if_pos (List.any_eq_true.2 ⟨x, hx, hlong⟩)]

theorem configViolations_ne_nil_iff {root : Value} :
    configViolations root ≠ [] ↔ ∃ path problem, Mistake root path problem := by
  constructor
  · intro h
    obtain ⟨x, hx⟩ := List.exists_mem_of_ne_nil _ h
    exact ⟨x.path, x.problem, mem_configViolations.1 hx⟩
  · rintro ⟨path, problem, h⟩
    exact List.ne_nil_of_mem (mem_configViolations.2 h)

/-- **What is reported, and when.**  A mapping is reported as invalid exactly if it has a mistake and
all mistakes can be quoted; if one cannot, the mapping fails for that.  A report has exactly the
mistakes, each constraint of a place once, in the order of the paths, and one line for each of them:
its path and its wording.  All mistakes can be quoted if no integer of the mapping is too long, and
none is in a mapping that is read from JSON text. -/
theorem ofEntries_reports (entries : List (Value × Value)) :
    ((∃ vs, Config.ofEntries entries = .error (.invalid vs)) ↔
        (∃ path problem, Mistake (.mapping entries) path problem) ∧
          ∀ path problem, Mistake (.mapping entries) path problem → problem.overlong = false) ∧
      (Config.ofEntries entries = .error .overlongQuote ↔
        ∃ path problem, Mistake (.mapping entries) path problem ∧ problem.overlong = true) ∧
      (∀ vs, Config.ofEntries entries = .error (.invalid vs) →
        (∀ path problem, ⟨path, problem⟩ ∈ vs ↔ Mistake (.mapping entries) path problem) ∧
          (vs.map Violation.about).Nodup ∧ (vs.Pairwise fun x y => x.path ≤ y.path) ∧
          Text.lines (ConfigFault.invalid vs).message.toList = vs.map fun x =>
            ("- config:" ++ "/".intercalate x.path ++ ": " ++ x.problem.wording).toList) ∧
      (Value.entriesOverlong entries = false →
        ∀ path problem, Mistake (.mapping entries) path problem → problem.overlong = false) ∧
      ∀ text, Json.readChars text = .ok (.mapping entries) →
        Value.entriesOverlong entries = false := by
  refine ⟨⟨?_, ?_⟩, ?_, ?_, ?_, ?_⟩
  · rintro ⟨vs, h⟩
    obtain ⟨rfl, hne, hquoted⟩ := ofEntries_eq_invalid_iff.1 h
    exact ⟨configViolations_ne_nil_iff.1 hne,
      fun path problem hm => hquoted _ (mem_configViolations.2 hm)⟩
  · rintro ⟨hmistake, hquoted⟩
    exact ⟨_, ofEntries_eq_invalid_iff.2 ⟨rfl, configViolations_ne_nil_iff.2 hmistake,
      fun x hx => hquoted x.path x.problem (mem_configViolations.1 hx)⟩⟩
  · rw [ofEntries_eq_overlongQuote_iff]
    constructor
    · rintro ⟨x, hx, hlong⟩
      exact ⟨x.path, x.problem, mem_configViolations.1 hx, hlong⟩
    · rintro ⟨path, problem, hm, hlong⟩
      exact ⟨_, mem_configViolations.2 hm, hlong⟩
  · intro vs h
    obtain ⟨rfl, -, -⟩ := ofEntries_eq_invalid_iff.1 h
    refine ⟨fun path problem => mem_configViolations, nodup_configViolations _,
      sorted_configViolations _, lines_message fun x hx => ?_⟩
    exact (mem_configViolations.1 hx).oneLine_path
  · intro h path problem hm
    exact hm.overlong_eq_false (by simpa [Value.overlong] using h)
  · intro text h
    simpa [Value.overlong] using Json.overlong_of_readChars h

end Reports

/-- A number of retries that is below zero and no integer, and two unknown names, one of which has a
line feed. -/
def manyMistakes : List (Value × Value) :=
  [(.text "simpleperf", .mapping [(.text "stop_wait",
      .mapping [(.text "max_retries", .double (Binary64.nearest true 3 2))])]),
    (.text "z", .null), (.text "a\nb", .list [])]

/-- Two constraints of one field make two lines, and two unknown names of one object make one. -/
theorem ofEntries_reports_manyMistakes :
    ∃ vs, Config.ofEntries manyMistakes = .error (.invalid vs) ∧
      ⟨[], .unknown [.text "z", .text "a\nb"]⟩ ∈ vs ∧
      ⟨["simpleperf", "stop_wait", "max_retries"],
        .broken (.kinds [.integer]) (.double (Binary64.nearest true 3 2))⟩ ∈ vs ∧
      ⟨["simpleperf", "stop_wait", "max_retries"],
        .broken .notNegative (.double (Binary64.nearest true 3 2))⟩ ∈ vs ∧
      (vs.map Violation.about).Nodup ∧
      Text.lines (ConfigFault.invalid vs).message.toList = vs.map fun x =>
        ("- config:" ++ "/".intercalate x.path ++ ": " ++ x.problem.wording).toList := by
  obtain ⟨hreported, -, hreport, hquotable, -⟩ := ofEntries_reports manyMistakes
  have hunknown : Mistake (.mapping manyMistakes) [] (.unknown [.text "z", .text "a\nb"]) := by
    have hplace : ([], ["adb", "simpleperf"]) ∈ configObjects := by decide
    have hkey : (.text "z", .null) ∈ manyMistakes := List.mem_cons_of_mem _ List.mem_cons_self
    exact .unknown hplace rfl rfl hkey (by simp)
  have hretries : ∀ c ∈ [.kinds [.integer], .notNegative],
      c.holds (.double (Binary64.nearest true 3 2)) = false →
        Mistake (.mapping manyMistakes) ["simpleperf", "stop_wait", "max_retries"]
          (.broken c (.double (Binary64.nearest true 3 2))) := by
    intro c hc hbroken
    have hplace : (["simpleperf", "stop_wait", "max_retries"],
        [.kinds [.integer], .notNegative]) ∈ configFields := by decide
    exact .field hplace rfl hc ((c.broken_iff _).2 hbroken)
  obtain ⟨vs, hvs⟩ := hreported.2 ⟨⟨_, _, hunknown⟩, hquotable rfl⟩
  obtain ⟨hmem, honce, -, hlines⟩ := hreport vs hvs
  exact ⟨vs, hvs, (hmem _ _).2 hunknown,
    (hmem _ _).2 (hretries _ (by decide) (by decide +kernel)),
    (hmem _ _).2 (hretries _ (by decide) (by decide +kernel)), honce, hlines⟩

/-- A serial number that is an integer of 4301 digits. -/
def overlongSerial : List (Value × Value) :=
  [(.text "adb", .mapping [(.text "serial", .int (10 ^ Numeral.digitLimit))])]

/-- **A mistake that is not reported:** a serial number must be a text, and an integer of 4301 digits
is none, but the mapping is not reported as invalid. -/
theorem ofEntries_unreported :
    Mistake (.mapping overlongSerial) ["adb", "serial"]
        (.broken (.kinds [.text, .null]) (.int (10 ^ Numeral.digitLimit))) ∧
      Config.ofEntries overlongSerial = .error .overlongQuote ∧
      ¬ ∃ vs, Config.ofEntries overlongSerial = .error (.invalid vs) := by
  have hmistake : Mistake (.mapping overlongSerial) ["adb", "serial"]
      (.broken (.kinds [.text, .null]) (.int (10 ^ Numeral.digitLimit))) := by
    have hplace : (["adb", "serial"], [.kinds [.text, .null]]) ∈ configFields := by decide
    refine .field hplace rfl List.mem_cons_self ?_
    simp [Constraint.Broken, Kind.Is]
  have hlong : Value.overlong (.int (10 ^ Numeral.digitLimit)) = true := by
    simp [Value.overlong, Int.natAbs_pow]
  have hfault : Config.ofEntries overlongSerial = .error .overlongQuote :=
    ofEntries_eq_overlongQuote_iff.2 ⟨_, mem_configViolations.2 hmistake, hlong⟩
  refine ⟨hmistake, hfault, ?_⟩
  rintro ⟨vs, h⟩
  rw [hfault] at h
  cases h

end DeviceSampling
