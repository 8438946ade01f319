/-
# What is read where

A mapping without mistakes is read field by field, and each field is read from the value at one path,
or has its default if there is none.  A policy that is left out, and one that leaves all out, are the
same: the default's number stands for each that is missing.

* `make_eq_ok_iff`: what a policy is made of;
* `ReadsPolicy`, `Reads`: the fields of a configuration, each with its path;
* `policyField_eq_ok_iff`: that an empty policy is not looked into makes no difference;
* `ofEntries_eq_ok_iff`: **a mapping is a configuration exactly if it has no mistake and reads as that.**
-/
import DeviceSampling.Proofs.ConfigRuns

namespace DeviceSampling

/-! ## 1. Fields -/

/-- A value as a text. -/
def Value.text? : Value → Option String
  | .text s => some s
  | _ => none

/-- **What a policy reads** under a path: two numbers, those of the default where none is. -/
structure ReadsPolicy (root : Value) (path : List String) (default p : PollingPolicy) : Prop where
  retries : (p.maxRetries : Int) =
    ((root.at? (path ++ ["max_retries"])).bind Value.integer?).getD default.maxRetries
  delay : (((root.at? (path ++ ["delay_s"])).bind Value.quantity?).getD
    (.double default.delay)).toDouble? = some p.delay

/-- **What a configuration reads,** field by field, and what stands for a field that is missing. -/
structure Reads (root : Value) (c : Config) : Prop where
  adbPath : c.adb.adbPath =
    ((root.at? ["adb", "adb_path"]).bind Value.text?).getD ({} : AdbConfig).adbPath
  serial : c.adb.serial = (root.at? ["adb", "serial"]).bind Value.text?
  timeout : c.adb.timeout =
    ((root.at? ["adb", "timeout_s"]).bind Value.quantity?).getD ({} : AdbConfig).timeout
  binary : c.sampler.binary =
    ((root.at? ["simpleperf", "binary"]).bind Value.text?).getD ({} : SamplerConfig).binary
  recordPath : c.sampler.recordPath =
    ((root.at? ["simpleperf", "tmp_output_path"]).bind Value.text?).getD
      ({} : SamplerConfig).recordPath
  recordTimeout : c.sampler.recordTimeout =
    (root.at? ["simpleperf", "record_timeout_s"]).bind Value.quantity?
  startWait : ReadsPolicy root ["simpleperf", "start_wait"] defaultStartWait c.sampler.startWait
  stopWait : ReadsPolicy root ["simpleperf", "stop_wait"] defaultStopWait c.sampler.stopWait

/-! ## 2. Policies -/

/-- **What a policy is made of:** the two numbers, neither of which is negative. -/
theorem make_eq_ok_iff {n : Int} {d : Binary64} {p : PollingPolicy} :
    PollingPolicy.make n d = .ok p ↔ (p.maxRetries : Int) = n ∧ p.delay = d := by
  unfold PollingPolicy.make
  constructor
  · intro h
    split at h
    · cases h
    · next hn =>
      split at h
      · cases h
        exact ⟨Int.toNat_of_nonneg (Int.not_lt.1 hn), rfl⟩
      · cases h
  · rintro ⟨rfl, rfl⟩
    rw [if_neg (by omega), dif_pos p.delay_nonneg]
    rfl

section Policies

variable {entries : List (Value × Value)} {name : String} {default p : PollingPolicy}

/-- **A policy is read number by number.**  That nothing of an empty one is read makes no difference,
because each number has its default. -/
theorem policyField_eq_ok_iff :
    policyField entries name default = .ok p ↔
      ReadsPolicy (.mapping (sectionEntries entries name)) [] default p := by
  have hat : ∀ field, (Value.mapping (sectionEntries entries name)).at? ([] ++ [field]) =
      Value.lookup field (sectionEntries entries name) := by
    intro field
    simp [Value.at?, Value.entries?]
  have hreads : ReadsPolicy (.mapping (sectionEntries entries name)) [] default p ↔
      (p.maxRetries : Int) = ((Value.lookup "max_retries" (sectionEntries entries name)).bind
          Value.integer?).getD default.maxRetries ∧
        (((Value.lookup "delay_s" (sectionEntries entries name)).bind Value.quantity?).getD
          (.double default.delay)).toDouble? = some p.delay := by
    constructor
    · rintro ⟨hretries, hdelay⟩
      rw [hat] at hretries hdelay
      exact ⟨hretries, hdelay⟩
    · rintro ⟨hretries, hdelay⟩
      exact ⟨by rw [hat]; exact hretries, by rw [hat]; exact hdelay⟩
  rw [hreads, policyField]
  generalize sectionEntries entries name = own
  cases hempty : own.isEmpty with
  | true =>
    obtain rfl := List.isEmpty_iff.1 hempty
    simp only [if_true, Value.lookup, Option.bind_none, Option.getD_none,
      Quantity.toDouble?, Except.ok.injEq, Option.some.injEq, Int.ofNat_inj]
    constructor
    · rintro rfl
      exact ⟨rfl, rfl⟩
    · rintro ⟨hretries, hdelay⟩
      cases p
      cases default
      cases hretries
      cases hdelay
      rfl
  | false =>
    simp only [Bool.false_eq_true, if_false]
    split
    · next hnone => simp [hnone]
    · next d hd =>
      rw [hd, Option.some.injEq, eq_comm (a := d), ← make_eq_ok_iff]
      split
      · next hmake => rw [hmake, Except.ok.injEq, Except.ok.injEq]
      · next hmake => simp [hmake]

end Policies

/-! ## 3. Configurations -/

section Configurations

variable {entries : List (Value × Value)} {c : Config}

/-- What stands under a name of a section is what is at its path. -/
theorem lookup_section (sectionName name : String) :
    Value.lookup name (sectionEntries entries sectionName) =
      (Value.mapping entries).at? [sectionName, name] := by
  have hroot : (Value.mapping entries).entries? = some entries := rfl
  rw [sectionEntries, lookup_entries]
  simp [Value.at?, hroot, Option.bind_assoc]

/-- A policy of the sampler's section is read from the paths below it. -/
theorem readsPolicy_section {policy : String} {default p : PollingPolicy} :
    ReadsPolicy (.mapping (sectionEntries (sectionEntries entries "simpleperf") policy)) []
        default p ↔
      ReadsPolicy (.mapping entries) ["simpleperf", policy] default p := by
  have hat : ∀ field, (Value.mapping (sectionEntries (sectionEntries entries "simpleperf")
      policy)).at? ([] ++ [field]) =
        (Value.mapping entries).at? (["simpleperf", policy] ++ [field]) := by
    intro field
    rw [List.cons_append, List.cons_append, List.nil_append, ← lookup_policy]
    simp [Value.at?, Value.entries?]
  constructor
  · rintro ⟨hretries, hdelay⟩
    rw [hat] at hretries hdelay
    exact ⟨hretries, hdelay⟩
  · rintro ⟨hretries, hdelay⟩
    exact ⟨by rw [hat]; exact hretries, by rw [hat]; exact hdelay⟩

/-- A text is read from its path. -/
theorem textField_eq (sectionName name default : String) :
    textField (sectionEntries entries sectionName) name default =
      (((Value.mapping entries).at? [sectionName, name]).bind Value.text?).getD default := by
  rw [textField, lookup_section]
  cases (Value.mapping entries).at? [sectionName, name] with
  | none => rfl
  | some v => cases v <;> rfl

/-- The section on the bridge is read from the paths below it. -/
theorem adb_ofEntries_eq_iff {adb : AdbConfig} :
    AdbConfig.ofEntries (sectionEntries entries "adb") = adb ↔
      adb.adbPath = (((Value.mapping entries).at? ["adb", "adb_path"]).bind Value.text?).getD
          ({} : AdbConfig).adbPath ∧
        adb.serial = ((Value.mapping entries).at? ["adb", "serial"]).bind Value.text? ∧
        adb.timeout = (((Value.mapping entries).at? ["adb", "timeout_s"]).bind
          Value.quantity?).getD ({} : AdbConfig).timeout := by
  have hpath : (AdbConfig.ofEntries (sectionEntries entries "adb")).adbPath =
      (((Value.mapping entries).at? ["adb", "adb_path"]).bind Value.text?).getD
        ({} : AdbConfig).adbPath := textField_eq "adb" "adb_path" _
  have hserial : (AdbConfig.ofEntries (sectionEntries entries "adb")).serial =
      ((Value.mapping entries).at? ["adb", "serial"]).bind Value.text? := by
    simp only [AdbConfig.ofEntries, lookup_section]
    cases (Value.mapping entries).at? ["adb", "serial"] with
    | none => rfl
    | some v => cases v <;> rfl
  have htimeout : (AdbConfig.ofEntries (sectionEntries entries "adb")).timeout =
      (((Value.mapping entries).at? ["adb", "timeout_s"]).bind Value.quantity?).getD
        ({} : AdbConfig).timeout := by
    simp only [AdbConfig.ofEntries, lookup_section]
  constructor
  · rintro rfl
    exact ⟨hpath, hserial, htimeout⟩
  · rintro ⟨hpath', hserial', htimeout'⟩
    have hext : ∀ a b : AdbConfig, a.adbPath = b.adbPath → a.serial = b.serial →
        a.timeout = b.timeout → a = b := by
      rintro ⟨⟩ ⟨⟩ rfl rfl rfl
      rfl
    exact hext _ _ (hpath.trans hpath'.symm) (hserial.trans hserial'.symm)
      (htimeout.trans htimeout'.symm)

/-- The section on the sampler is read if its policies are. -/
theorem sampler_ofEntries_eq_ok_iff {own : List (Value × Value)} {s : SamplerConfig} :
    SamplerConfig.ofEntries own = .ok s ↔
      s.binary = textField own "binary" ({} : SamplerConfig).binary ∧
        s.recordPath = textField own "tmp_output_path" ({} : SamplerConfig).recordPath ∧
        s.recordTimeout = (Value.lookup "record_timeout_s" own).bind Value.quantity? ∧
        policyField own "start_wait" defaultStartWait = .ok s.startWait ∧
        policyField own "stop_wait" defaultStopWait = .ok s.stopWait := by
  simp only [SamplerConfig.ofEntries]
  cases policyField own "start_wait" defaultStartWait with
  | error f => exact iff_of_false (fun h => by cases h) (fun h => by cases h.2.2.2.1)
  | ok startWait =>
    cases policyField own "stop_wait" defaultStopWait with
    | error f => exact iff_of_false (fun h => by cases h) (fun h => by cases h.2.2.2.2)
    | ok stopWait =>
      constructor
      · intro h
        cases h
        exact ⟨rfl, rfl, rfl, rfl, rfl⟩
      · rintro ⟨hbinary, hpath, htimeout, hstart, hstop⟩
        cases s
        cases hbinary
        cases hpath
        cases htimeout
        cases hstart
        cases hstop
        rfl

/-- A value has no mistake if a check finds none. -/
theorem no_mistake_iff {root : Value} :
    (∀ path problem, ¬ Mistake root path problem) ↔ configSchema.violations [] root = [] := by
  have hmem : ∀ x : Violation, x ∈ configViolations root ↔ x ∈ configSchema.violations [] root :=
    fun x => List.mem_mergeSort
  rw [List.eq_nil_iff_forall_not_mem]
  constructor
  · intro h x hx
    exact h x.path x.problem (mem_configViolations.1 ((hmem x).2 hx))
  · intro h path problem hm
    exact h _ ((hmem _).1 (mem_configViolations.2 hm))

/-- A mapping without mistakes is read section by section. -/
theorem ofEntries_eq_ok_sections :
    Config.ofEntries entries = .ok c ↔
      (∀ path problem, ¬ Mistake (.mapping entries) path problem) ∧
        AdbConfig.ofEntries (sectionEntries entries "adb") = c.adb ∧
        SamplerConfig.ofEntries (sectionEntries entries "simpleperf") = .ok c.sampler := by
  by_cases hmistake : ∃ path problem, Mistake (.mapping entries) path problem
  · -- a mistake is reported, or cannot be quoted
    obtain ⟨path, problem, hm⟩ := hmistake
    refine iff_of_false (fun h => ?_) fun h => h.1 path problem hm
    rcases ofEntries_of_mistake hm with ⟨vs, hvs⟩ | hlong
    · cases h.symm.trans hvs
    · cases h.symm.trans hlong
  · have hnone : configViolations (.mapping entries) = [] := by
      by_contra hne
      exact hmistake (configViolations_ne_nil_iff.1 hne)
    have hclear : ∀ path problem, ¬ Mistake (.mapping entries) path problem :=
      fun path problem hm => hmistake ⟨path, problem, hm⟩
    simp only [Config.ofEntries, hnone, List.any_nil, Bool.false_eq_true, if_false,
      List.isEmpty_nil, Bool.not_true]
    cases SamplerConfig.ofEntries (sectionEntries entries "simpleperf") with
    | error f => exact iff_of_false (fun h => by cases h) (fun h => by cases h.2.2)
    | ok sampler =>
      constructor
      · intro h
        cases h
        exact ⟨hclear, rfl, rfl⟩
      · rintro ⟨-, hadb, hsampler⟩
        cases c
        cases hadb
        cases hsampler
        rfl

/-- **A mapping is a configuration exactly if it has no mistake and reads as that.** -/
theorem ofEntries_eq_ok_iff :
    Config.ofEntries entries = .ok c ↔
      (∀ path problem, ¬ Mistake (.mapping entries) path problem) ∧ Reads (.mapping entries) c := by
  rw [ofEntries_eq_ok_sections, adb_ofEntries_eq_iff, sampler_ofEntries_eq_ok_iff, textField_eq,
    textField_eq, lookup_section, policyField_eq_ok_iff, policyField_eq_ok_iff, readsPolicy_section,
    readsPolicy_section]
  refine and_congr_right fun _ => ?_
  constructor
  · rintro ⟨⟨hadb, hserial, htimeout⟩, hbinary, hpath, hrecord, hstart, hstop⟩
    exact ⟨hadb, hserial, htimeout, hbinary, hpath, hrecord, hstart, hstop⟩
  · rintro ⟨hadb, hserial, htimeout, hbinary, hpath, hrecord, hstart, hstop⟩
    exact ⟨⟨hadb, hserial, htimeout⟩, hbinary, hpath, hrecord, hstart, hstop⟩

/-- The empty mapping is the configuration of all defaults. -/
theorem ofEntries_nil : Config.ofEntries [] = .ok {} :=
  ofEntries_eq_ok_iff.2 ⟨no_mistake_iff.2 rfl,
    ⟨rfl, rfl, rfl, rfl, rfl, rfl, ⟨rfl, rfl⟩, ⟨rfl, rfl⟩⟩⟩

end Configurations
end DeviceSampling
