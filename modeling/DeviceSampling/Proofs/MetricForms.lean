/-
# The form of a metric

What a reading gathers has a form that does not depend on the report: the names in its keys are
plain, and its values are integers.  Both hold for every line that writes, so they hold for complete
results and for partial ones.  A total keeps the text that it has in the report, underscores and
foreign digits included; a share is printed, and is no more than the total that was in force.

* `EventName`, `SymbolName`, `MetricName`: the names in a key, and the key;
* `readInteger_share`: **a share is printed so that it can be read;**
* `Writes.metricName`, `Writes.exists_readInteger`: what one line writes has the form;
* `parseReport_formed`: **and so has all that a reading gathers.**
-/
import DeviceSampling.Proofs.Numerals
import DeviceSampling.Proofs.ReportRange

namespace DeviceSampling

open Text

/-! ## 1. Integers that are printed -/

/-- A finite double is within `2^1024` on both sides, and so is its integer part. -/
theorem Binary64.natAbs_floor_le {x : Binary64} {n : Int} (h : x.floor = .ok n) :
    n.natAbs ≤ 2 ^ 1024 := by
  obtain ⟨s, u, hu, rfl⟩ : ∃ s u hu, x = finite s u hu := by
    cases x with
    | nan => cases h
    | infinite => cases h
    | finite s u hu => exact ⟨s, u, hu, rfl⟩
  have hone := unitsPerOne_pos
  have hlimit : unitLimit = 2 ^ 1024 * unitsPerOne := by decide +kernel
  have hu' : u < 2 ^ 1024 * unitsPerOne := hlimit ▸ hu.1
  have hn : n = signedUnits s u / unitsPerOne := by
    rw [← Int.fdiv_eq_ediv_of_nonneg _ (Int.natCast_nonneg _)]
    exact (Except.ok.inj h).symm
  -- the powers are never computed
  generalize unitsPerOne = one at hone hu' hn
  generalize 2 ^ 1024 = limit at hu' ⊢
  have hcast : (u : Int) < limit * one := by exact_mod_cast hu'
  have hsigned : -(limit * one : Int) ≤ signedUnits s u ∧ signedUnits s u ≤ limit * one := by
    unfold signedUnits
    split <;> omega
  have hpos : (0 : Int) < one := Int.natCast_pos.2 hone
  have hlow : -(limit : Int) ≤ n := by
    rw [hn, Int.le_ediv_iff_mul_le hpos, Int.neg_mul]
    exact hsigned.1
  have hhigh : n ≤ limit := by
    rw [hn]
    exact Int.ediv_le_of_le_mul hpos hsigned.2
  omega

/-- A share is within `2^1024` on both sides. -/
theorem natAbs_share_le {x : Binary64} {total n : Int} (h : share x total = .ok n) :
    n.natAbs ≤ 2 ^ 1024 := by
  cases ht : Binary64.ofInt? total with
  | none =>
    unfold share at h
    rw [ht] at h
    cases h
  | some t =>
    have htotal : total.natAbs < Binary64.wholeLimit := by
      rw [← Nat.not_le, ← Binary64.ofInt?_eq_none_iff, ht]
      exact Option.some_ne_none t
    have hlimit : Binary64.wholeLimit ≤ 2 ^ 1024 := by decide +kernel
    rw [share_of_ofInt? ht] at h
    unfold roundHalfUp at h
    cases hfloor : (shareProduct x t + Binary64.half).floor with
    | error fault =>
      rw [hfloor] at h
      cases fault <;> cases h
    | ok v =>
      have hv := Binary64.natAbs_floor_le hfloor
      rw [hfloor] at h
      obtain rfl : min v total = n := Except.ok.inj h
      omega

/-- **A share is printed so that it can be read.** -/
theorem readInteger_share {x : Binary64} {total n : Int} (h : share x total = .ok n) :
    Numeral.readInteger (toString n) = .ok n := by
  have hlimit : 2 ^ 1024 < 10 ^ Numeral.digitLimit := by decide +kernel
  exact readInteger_toString (Nat.lt_of_le_of_lt (natAbs_share_le h) hlimit)

/-! ## 2. Names -/

/-- **The name of an event** in some lines: none yet, or what stands before the first space in the
value of an event header.  It has no space and no line break. -/
structure EventName (ls : List (List Char)) (event : String) : Prop where
  named : event = "" ∨
    ∃ line ∈ ls, ∃ value, Header line "Event".toList value ∧ event = eventName value
  noSpace : ' ' ∉ event.toList
  oneLine : OneLine event.toList

/-- **The name of a symbol:** one that was asked for, not empty, without blanks at its ends and
without a line break. -/
structure SymbolName (wanted : List String) (symbol : String) : Prop where
  wanted : symbol ∈ wanted
  nonempty : symbol ≠ ""
  stripped : strip symbol = symbol
  oneLine : OneLine symbol.toList

/-- **The key of a metric:** that of an event's total, or of a symbol's share of it. -/
inductive MetricName (process : String) (wanted : List String) (ls : List (List Char)) :
    String → Prop
  | total {event} : EventName ls event → MetricName process wanted ls (metricKey event process none)
  | share {event symbol} : EventName ls event → SymbolName wanted symbol →
      MetricName process wanted ls (metricKey event process (some symbol))

section Names

variable {process : String} {wanted : List String} {ls before : List (List Char)}
variable {line : List Char}

/-- The value of a header is part of its line. -/
theorem Header.value_subset {label value : List Char} (h : Header line label value) :
    value ⊆ line := by
  obtain ⟨rest, ⟨hline, -⟩, hpiece⟩ := h
  have hrest : rest ⊆ line := by
    rw [hline]
    exact List.subset_append_right _ rest
  rcases hpiece with ⟨after, hcut, -⟩ | ⟨-, rfl⟩
  · intro c hc
    refine hrest ?_
    rw [hcut, List.append_assoc]
    exact List.mem_append_left _ hc
  · exact hrest

/-- The event after some lines has a name in them. -/
theorem EventOf.eventName {event : String} (h : EventOf before event) (hsub : before ⊆ ls)
    (hone : ∀ l ∈ ls, OneLine l) : EventName ls event := by
  cases h with
  | unnamed => exact ⟨Or.inl rfl, by simp, by simp⟩
  | @named value hlast =>
    obtain ⟨front, line, rest, rfl, hh, -⟩ := hlast
    have hline : line ∈ ls := hsub (List.mem_append_right _ List.mem_cons_self)
    have htext : (DeviceSampling.eventName value).toList = value.takeWhile (· ≠ ' ') :=
      String.toList_ofList
    refine ⟨Or.inr ⟨line, hline, value, hh, rfl⟩, ?_, ?_⟩
    · rw [htext]
      intro hspace
      simpa using List.mem_takeWhile_imp hspace
    · rw [htext]
      exact ((hone line hline).of_subset hh.value_subset).of_subset
        (List.takeWhile_prefix _).subset

/-- The symbol of a row is a name. -/
theorem symbolName_of_rowFields {percentage symbol : List Char}
    (h : RowFields line percentage symbol) (hone : OneLine line)
    (hw : String.ofList symbol ∈ wanted) : SymbolName wanted (String.ofList symbol) := by
  obtain ⟨lead, gap, word, gap', trail, rfl, -, -, -, -, -, -, -, -, -, hne, hedge, -⟩ := h
  have htrim : trim symbol = symbol := by
    have happend := trim_append allBlank_nil allBlank_nil hedge
    rwa [List.nil_append, List.append_nil] at happend
  refine ⟨hw, ?_, ?_, ?_⟩
  · simpa using hne
  · rw [strip, String.toList_ofList, htrim]
  · rw [String.toList_ofList]
    refine hone.of_subset fun c hc => ?_
    simp [hc]

/-! ## 3. What a line writes -/

/-- **The key of what a line writes** has the form. -/
theorem Writes.metricName {key value : String} (h : Writes process wanted before line key value)
    (hsub : before ⊆ ls) (hmem : line ∈ ls) (hone : ∀ l ∈ ls, OneLine l) :
    MetricName process wanted ls key := by
  cases h with
  | total _ he => exact .total (he.eventName hsub hone)
  | row _ hf hw he =>
    exact .share (he.eventName hsub hone) (symbolName_of_rowFields hf (hone line hmem) hw)

/-- **The value of what a line writes is an integer,** if the line fits. -/
theorem Writes.exists_readInteger {key value : String}
    (h : Writes process wanted before line key value) (hfit : Fits wanted before line) :
    ∃ n, Numeral.readInteger value = .ok n := by
  cases h with
  | total hh =>
    by_contra hno
    exact hfit.1 (.total hh fun n hn => hno ⟨n, hn⟩)
  | row _ _ _ _ _ _ hn => exact ⟨_, readInteger_share hn⟩

/-- **A row of a wanted symbol writes one share,** which is printed and is no more than the total in
force. -/
theorem step_row {percentage : List Char} {s s' : ReportState} (hone : OneLine line)
    (hw : WantedRow wanted line percentage)
    (hs : s.step process wanted (ReportLine.read line) = .ok s') :
    ∃ symbol n, SymbolName wanted symbol ∧
      s' = { s with metrics := s.metrics.insert (metricKey s.event process (some symbol)) (toString n) } ∧
      Numeral.readInteger (toString n) = .ok n ∧ n ≤ s.total := by
  obtain ⟨hrow, symbol, hf, hwanted⟩ := hw
  have hpasses := step_passes hs
  rw [(ReadsAs.row hrow hf).read_eq] at hpasses
  cases hpasses with
  | @row _ _ x n _ _ hn =>
    exact ⟨_, n, symbolName_of_rowFields hf hone hwanted, rfl, readInteger_share hn,
      share_le_total hn⟩
  | unwanted hnot => exact absurd hwanted hnot

end Names

/-! ## 4. All that is gathered -/

/-- **The form of the metrics,** complete or partial.  Every key is that of an event's total or of a
wanted symbol's share, with plain names, and every value can be read as an integer.  What a row
writes is an integer in plain spelling that is no more than the total in force. -/
theorem parseReport_formed {text process : String} {wanted : List String} {parsed : ParsedReport}
    (h : parseReport text process wanted = .ok parsed) :
    (∀ key value, (key, value) ∈ parsed.metrics.entries →
      MetricName process wanted (lines text.toList) key ∧
        ∃ n, Numeral.readInteger value = .ok n) ∧
    ∀ front line rest percentage s s', lines text.toList = front ++ line :: rest →
      stateAfter? process wanted {} front = some s → WantedRow wanted line percentage →
      s.step process wanted (ReportLine.read line) = .ok s' →
      TotalOf front s.total ∧
        ∃ symbol n, SymbolName wanted symbol ∧
          s' = { s with
            metrics := s.metrics.insert (metricKey s.event process (some symbol)) (toString n) } ∧
          Numeral.readInteger (toString n) = .ok n ∧ n ≤ s.total := by
  have hone : ∀ l ∈ lines text.toList, OneLine l := fun l hl c hc => not_isBoundary_of_mem_lines hl hc
  constructor
  · intro key value hentry
    obtain ⟨front, rest, hlines, hfit, hvalues⟩ := (parseReport_gathers h).exists_front
    have hget : parsed.metrics.get? key = some value :=
      (Metrics.get?_eq_some_iff (nodup_keys_of_parseReport h)).2 hentry
    obtain ⟨i, ⟨line, hline, hwrites⟩, -⟩ := (hvalues key value).1 hget
    have hsub : front ⊆ lines text.toList := by
      rw [hlines]
      exact List.subset_append_left front rest
    have htake : front.take i ⊆ lines text.toList := fun l hl => hsub (List.take_subset i front hl)
    exact ⟨hwrites.metricName htake (hsub (List.mem_of_getElem? hline)) hone,
      hwrites.exists_readInteger (hfit i line hline)⟩
  · intro front line rest percentage s s' hlines hs hw hstep
    have hmem : line ∈ lines text.toList := by
      rw [hlines]
      exact List.mem_append_right _ List.mem_cons_self
    exact ⟨stateAfter?_total hs, step_row (hone line hmem) hw hstep⟩

/-- A total with an underscore, a row of it, and a total that cannot be read. -/
def looseTotal : String :=
  "Event: cycles (type 0)\nEvent count: 1_000\n12.50%  12  foo()\nEvent count: many\n"

/-- The reading ends early, and what it has gathered has the form. -/
theorem parseReport_formed_looseTotal :
    ∃ parsed, parseReport looseTotal "sf" ["foo()"] = .ok parsed ∧ parsed.complete = false ∧
      parsed.metrics.entries = [("cycles-sf", "1_000"), ("cycles-sf-foo()", "125")] ∧
      ∀ key value, (key, value) ∈ parsed.metrics.entries →
        MetricName "sf" ["foo()"] (lines looseTotal.toList) key ∧
          ∃ n, Numeral.readInteger value = .ok n := by
  have h : parseReport looseTotal "sf" ["foo()"] =
      .ok ⟨⟨[("cycles-sf", "1_000"), ("cycles-sf-foo()", "125")]⟩,
        some ⟨4, "Event count: many", .total (.malformed 10 "many")⟩⟩ := by
    decide +kernel
  exact ⟨_, h, rfl, rfl, (parseReport_formed h).1⟩

end DeviceSampling
