/-
# The bounds of a configuration

A number is checked by what it must not be: not below zero, or not zero or below it.  Of an integer,
and of every double that is a number, that says what it must be.  Not-a-number is neither below zero
nor above, so it passes each check, and has none of the bounds.

* `zero_le_iff`, `zero_lt_iff`: **what a check leaves over;**
* `text_ne_empty`, `positive_iff`, `delay_iff`: the bounds of a field that is read;
* `ofEntries_bounds`: **which bounds an accepted configuration has,** and that its policies need no
  check of their own;
* `ofEntries_unbounded`: a JSON text with an accepted configuration that lacks some.
-/
import DeviceSampling.Proofs.ConfigReading

namespace DeviceSampling

/-! ## 1. What a check leaves over -/

namespace Binary64

/-- A double is at least zero if it is not below zero, unless it is not a number. -/
theorem zero_le_iff {x : Binary64} (h : x.lt zero = false) : zero.le x = true ↔ x ≠ nan := by
  obtain ⟨hz, hzero⟩ := exists_zero_eq
  rw [hzero] at h ⊢
  cases x with
  | nan => simp [le]
  | infinite s => simpa [lt, le] using h
  | finite s u hu => simpa [lt, le] using h

/-- A double is above zero if it is not zero or below, unless it is not a number. -/
theorem zero_lt_iff {x : Binary64} (h : x.le zero = false) : zero.lt x = true ↔ x ≠ nan := by
  obtain ⟨hz, hzero⟩ := exists_zero_eq
  rw [hzero] at h ⊢
  cases x with
  | nan => simp [lt]
  | infinite s => simpa [lt, le] using h
  | finite s u hu => simpa [lt, le] using h

/-- No integer is read as not-a-number. -/
theorem ofInt?_ne_nan {n : Int} : ofInt? n ≠ some nan := by
  intro h
  obtain ⟨s, u, hu, hx⟩ := exists_finite_of_ofInt? h
  cases hx

end Binary64

open Binary64

/-! ## 2. Bounds -/

/-- A number above zero. -/
def Quantity.Positive : Quantity → Prop
  | .int n => 0 < n
  | .double x => zero.lt x = true

instance : DecidablePred Quantity.Positive
  | .int n => inferInstanceAs (Decidable (0 < n))
  | .double x => inferInstanceAs (Decidable (zero.lt x = true))

section Fields

variable {root : Value}

/-- **What is at the path of a field without mistakes** keeps to its constraints. -/
theorem field_of_no_mistake (h : ∀ path problem, ¬ Mistake root path problem) {path : List String}
    {constraints : List Constraint} (hplace : (path, constraints) ∈ configFields) {v : Value}
    (hv : root.at? path = some v) {c : Constraint} (hc : c ∈ constraints) : ¬ c.Broken v :=
  fun hbroken => h path _ (.field hplace hv hc hbroken)

/-- A text without mistakes has a character, if its default has one. -/
theorem text_ne_empty (h : ∀ path problem, ¬ Mistake root path problem) {path : List String}
    (hplace : (path, [.kinds [.text], .nonEmpty]) ∈ configFields) {default : String}
    (hdefault : default ≠ "") : ((root.at? path).bind Value.text?).getD default ≠ "" := by
  cases hv : root.at? path with
  | none => exact hdefault
  | some v =>
    have hempty : v ≠ .text "" := field_of_no_mistake h hplace hv (c := .nonEmpty) (by simp)
    cases v with
    | text s => simpa [Value.text?] using hempty
    | _ => exact hdefault

/-- A time limit without mistakes is above zero exactly if it is not not-a-number. -/
theorem positive_iff (h : ∀ path problem, ¬ Mistake root path problem) {path : List String}
    (hplace : (path, [.kinds [.number], .positive]) ∈ configFields) {default : Quantity}
    (hdefault : default.Positive) :
    (((root.at? path).bind Value.quantity?).getD default).Positive ↔
      root.at? path ≠ some (.double nan) := by
  cases hv : root.at? path with
  | none => exact iff_of_true hdefault (by simp)
  | some v =>
    have hpositive := field_of_no_mistake h hplace hv (c := .positive) (by simp)
    cases v with
    | int n =>
      refine iff_of_true ?_ (by simp)
      by_contra hle
      exact hpositive (Or.inl ⟨n, Int.not_lt.1 hle, rfl⟩)
    | double x =>
      have hle : x.le zero = false := by
        by_contra hle
        exact hpositive (Or.inr ⟨x, rfl, by simpa using hle⟩)
      simpa [Value.quantity?, Quantity.Positive] using zero_lt_iff hle
    | _ => exact iff_of_true hdefault (by simp)

/-- The delay of a policy is zero at least exactly if no not-a-number is read for it. -/
theorem delay_iff {path : List String} {default p : PollingPolicy}
    (hp : ReadsPolicy root path default p) (hdefault : default.delay ≠ nan) :
    zero.le p.delay = true ↔ root.at? (path ++ ["delay_s"]) ≠ some (.double nan) := by
  have hdelay := hp.delay
  rw [zero_le_iff p.delay_nonneg]
  refine not_congr ?_
  constructor
  · intro hnan
    rw [hnan] at hdelay
    cases hv : root.at? (path ++ ["delay_s"]) with
    | none =>
      rw [hv] at hdelay
      exact absurd (by simpa [Quantity.toDouble?] using hdelay) hdefault
    | some v =>
      rw [hv] at hdelay
      cases v with
      | int n =>
        have hint : ofInt? n = some nan := by
          simpa [Value.quantity?, Quantity.toDouble?] using hdelay
        exact absurd hint ofInt?_ne_nan
      | double x => simpa [Value.quantity?, Quantity.toDouble?] using hdelay
      | _ => exact absurd (by simpa [Value.quantity?, Quantity.toDouble?] using hdelay) hdefault
  · intro hv
    rw [hv] at hdelay
    simpa [Value.quantity?, Quantity.toDouble?, eq_comm] using hdelay

end Fields

/-! ## 3. Accepted configurations -/

/-- **A policy of a mapping without mistakes passes its own check.** -/
theorem ofEntries_ne_policy (entries : List (Value × Value)) (fault : PolicyFault) :
    Config.ofEntries entries ≠ .error (.policy fault) := by
  intro h
  by_cases hmistake : ∃ path problem, Mistake (.mapping entries) path problem
  · obtain ⟨path, problem, hm⟩ := hmistake
    rcases ofEntries_of_mistake hm with ⟨vs, hvs⟩ | hlong
    · cases h.symm.trans hvs
    · cases h.symm.trans hlong
  · rcases ofEntries_of_no_mistake fun path problem hm => hmistake ⟨path, problem, hm⟩ with
      ⟨-, hlarge⟩ | ⟨-, c, hc⟩
    · cases h.symm.trans hlarge
    · cases h.symm.trans hc

/-- **Which bounds an accepted configuration has.**  Its texts have a character, and its numbers of
retries are those that are written, which are not negative.  Its time limit is above zero, and a delay
of it zero at least, exactly if what is written there is not not-a-number.  No mapping fails for a
policy, since its mistakes are found before, and a policy is made of any two numbers that are not
negative: its delay is zero at least exactly if it is not not-a-number. -/
theorem ofEntries_bounds (entries : List (Value × Value)) :
    (∀ c, Config.ofEntries entries = .ok c →
      (c.adb.adbPath ≠ "" ∧ c.sampler.binary ≠ "" ∧ c.sampler.recordPath ≠ "") ∧
        (c.adb.timeout.Positive ↔
          (Value.mapping entries).at? ["adb", "timeout_s"] ≠ some (.double nan)) ∧
        ∀ policy ∈ [("start_wait", c.sampler.startWait, defaultStartWait),
            ("stop_wait", c.sampler.stopWait, defaultStopWait)],
          (policy.2.1.maxRetries : Int) =
              (((Value.mapping entries).at? ["simpleperf", policy.1, "max_retries"]).bind
                Value.integer?).getD policy.2.2.maxRetries ∧
            (zero.le policy.2.1.delay = true ↔
              (Value.mapping entries).at? ["simpleperf", policy.1, "delay_s"] ≠
                some (.double nan))) ∧
      (∀ fault, Config.ofEntries entries ≠ .error (.policy fault)) ∧
      ∀ n d p, PollingPolicy.make n d = .ok p →
        0 ≤ n ∧ (p.maxRetries : Int) = n ∧ p.delay = d ∧ (zero.le p.delay = true ↔ d ≠ nan) := by
  refine ⟨fun c h => ?_, ofEntries_ne_policy entries, fun n d p h => ?_⟩
  · obtain ⟨hclear, hreads⟩ := ofEntries_eq_ok_iff.1 h
    refine ⟨⟨?_, ?_, ?_⟩, ?_, ?_⟩
    · rw [hreads.adbPath]
      exact text_ne_empty hclear (by decide) (by decide)
    · rw [hreads.binary]
      exact text_ne_empty hclear (by decide) (by decide)
    · rw [hreads.recordPath]
      exact text_ne_empty hclear (by decide) (by decide)
    · rw [hreads.timeout]
      exact positive_iff hclear (by decide) (by decide +kernel)
    · intro policy hpolicy
      rcases List.mem_pair.1 hpolicy with rfl | rfl
      · exact ⟨hreads.startWait.retries, delay_iff hreads.startWait (by decide +kernel)⟩
      · exact ⟨hreads.stopWait.retries, delay_iff hreads.stopWait (by decide +kernel)⟩
  · obtain ⟨rfl, rfl⟩ := make_eq_ok_iff.1 h
    exact ⟨Int.natCast_nonneg _, rfl, rfl, zero_le_iff p.delay_nonneg⟩

/-- A time limit that is an integer, a whole double of retries, and no delay. -/
def wholeEntries : List (Value × Value) :=
  [(.text "adb", .mapping [(.text "timeout_s", .int 5)]),
    (.text "simpleperf", .mapping [(.text "stop_wait",
      .mapping [(.text "max_retries", .double (.ofNat 7))])])]

/-- Seven retries, written as a double, and the default's delay. -/
theorem ofEntries_bounds_wholeEntries :
    ∃ c, Config.ofEntries wholeEntries = .ok c ∧ c.adb.timeout.Positive ∧
      c.sampler.stopWait.maxRetries = 7 ∧ zero.le c.sampler.stopWait.delay = true := by
  obtain ⟨c, hc⟩ : ∃ c, Config.ofEntries wholeEntries = .ok c := by
    have hclear : ∀ path problem, ¬ Mistake (.mapping wholeEntries) path problem :=
      no_mistake_iff.2 (by decide +kernel)
    rcases ofEntries_of_no_mistake hclear with ⟨⟨policy, hpolicy, n, hn, -⟩, -⟩ | ⟨-, hc⟩
    · rcases List.mem_pair.1 hpolicy with rfl | rfl
      · cases hn
      · cases hn
    · exact hc
  obtain ⟨hbounds, -, -⟩ := ofEntries_bounds wholeEntries
  obtain ⟨-, htimeout, hpolicies⟩ := hbounds c hc
  obtain ⟨hretries, hdelay⟩ := hpolicies _ (List.mem_cons_of_mem _ List.mem_cons_self)
  have hlimit : (Value.mapping wholeEntries).at? ["adb", "timeout_s"] = some (.int 5) := rfl
  have hnone : (Value.mapping wholeEntries).at? ["simpleperf", "stop_wait", "delay_s"] = none := rfl
  have hseven : ((Value.mapping wholeEntries).at? ["simpleperf", "stop_wait", "max_retries"]).bind
      Value.integer? = some 7 := by decide +kernel
  refine ⟨c, hc, htimeout.2 (by simp [hlimit]), ?_, hdelay.2 (by simp [hnone])⟩
  rw [hseven] at hretries
  exact Int.ofNat_inj.1 hretries

/-- A JSON text with not-a-number as the time limit and as a delay. -/
def nanText : String := "\x7b\"adb\": \x7b\"timeout_s\": NaN\x7d, " ++
  "\"simpleperf\": \x7b\"start_wait\": \x7b\"delay_s\": NaN\x7d\x7d\x7d"

/-- The mapping of that text. -/
def nanEntries : List (Value × Value) :=
  [(.text "adb", .mapping [(.text "timeout_s", .double nan)]),
    (.text "simpleperf", .mapping [(.text "start_wait",
      .mapping [(.text "delay_s", .double nan)])])]

/-- Not every accepted configuration has the bounds of its numbers, and not every policy: not-a-number
comes from JSON text, and passes each check. -/
theorem ofEntries_unbounded :
    Json.readChars nanText.toList = .ok (.mapping nanEntries) ∧
      ∃ c p, Config.ofEntries nanEntries = .ok c ∧ ¬ c.adb.timeout.Positive ∧
        zero.le c.sampler.startWait.delay = false ∧
        PollingPolicy.make 1 nan = .ok p ∧ zero.le p.delay = false := by
  have hclear : ∀ path problem, ¬ Mistake (.mapping nanEntries) path problem :=
    no_mistake_iff.2 rfl
  have hreads : Reads (.mapping nanEntries)
      { adb := { timeout := .double nan }, sampler := { startWait := ⟨3, nan, rfl⟩ } } :=
    ⟨rfl, rfl, rfl, rfl, rfl, rfl, ⟨rfl, rfl⟩, ⟨rfl, rfl⟩⟩
  refine ⟨rfl, _, ⟨1, nan, rfl⟩, ofEntries_eq_ok_iff.2 ⟨hclear, hreads⟩, ?_, ?_,
    make_eq_ok_iff.2 ⟨rfl, rfl⟩, ?_⟩
  · decide +kernel
  · decide +kernel
  · decide +kernel

end DeviceSampling
