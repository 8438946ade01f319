/-
# Which reports have a result

A malformed line is no obstacle to a result, because what was gathered before it is kept.  A row of
a wanted symbol is one if its figures leave the range of the doubles: the total is as great as the
middle between the greatest double and `2^1024`, or the share is infinite.  The reading then stops
without a result, though the report may have been read in part.

* `Gathers`, `parseReport_gathers`: what a result holds;
* `OverflowsFor`: the lines that leave no result, each with its cause;
* `InRange`: figures that stay in the range;
* `parseReport_hasResult`: **which reports have a result, and what becomes of the others;**
* `parseReport_withoutResult`: an infinite percentage of a total leaves none.
-/
import DeviceSampling.Proofs.DoubleRange
import DeviceSampling.Proofs.ReportGrammar
import DeviceSampling.Proofs.ReportMeaning

namespace DeviceSampling

open Text

variable {text process : String} {wanted : List String} {before : List (List Char)}
variable {line : List Char} {s : ReportState}

/-! ## 1. What a result holds -/

/-- **What a reading gathers:** what all lines write if they all fit, or what the lines before the
first bad one write, which is malformed and named in the fault. -/
inductive Gathers (process : String) (wanted : List String) (ls : List (List Char)) :
    ParsedReport → Prop
  | toEnd {m} : AllFit wanted ls →
      (∀ key value, m.get? key = some value ↔ LastWrite process wanted ls key value) →
      Gathers process wanted ls ⟨m, none⟩
  | upTo {front line rest m cause} : ls = front ++ line :: rest → AllFit wanted front →
      Malformed wanted front line →
      (∀ key value, m.get? key = some value ↔ LastWrite process wanted front key value) →
      Gathers process wanted ls ⟨m, some ⟨front.length + 1, String.ofList line, cause⟩⟩

/-- **A result holds what its lines write,** also if it is partial. -/
theorem parseReport_gathers {parsed : ParsedReport}
    (h : parseReport text process wanted = .ok parsed) :
    Gathers process wanted (lines text.toList) parsed := by
  rcases parseReport_cases text process wanted with
    ⟨s, hs, hp⟩ | ⟨front, line, rest, s, stop, hl, hs, hstop, hp⟩
  · rw [h] at hp
    obtain rfl := Except.ok.inj hp
    exact .toEnd ((allFit_iff process).2 ⟨s, hs⟩) (stateAfter?_describes hs).values
  · rw [h] at hp
    have hbad := step_stop (stateAfter?_total hs) hstop
    cases stop with
    | malformed cause =>
      obtain rfl := Except.ok.inj hp
      exact .upTo hl ((allFit_iff process).2 ⟨s, hs⟩) hbad (stateAfter?_describes hs).values
    | overflow => cases hp

/-- What was gathered is what some first lines write, all of which fit. -/
theorem Gathers.exists_front {ls : List (List Char)} {parsed : ParsedReport}
    (h : Gathers process wanted ls parsed) :
    ∃ front rest, ls = front ++ rest ∧ AllFit wanted front ∧
      ∀ key value, parsed.metrics.get? key = some value ↔
        LastWrite process wanted front key value := by
  cases h with
  | toEnd hfit hm => exact ⟨ls, [], (List.append_nil ls).symm, hfit, hm⟩
  | upTo hl hfit _ hm => exact ⟨_, _, hl, hfit, hm⟩

/-! ## 2. Lines that leave no result -/

/-- **Why a line leaves no result,** after the lines before it: it is a row of a wanted symbol with
a percentage that can be read, and the total has no double or the share is infinite. -/
inductive OverflowsFor (wanted : List String) (before : List (List Char)) (line : List Char) :
    ReportOverflow → Prop
  | total {percentage x total} : WantedRow wanted line percentage → PercentageIs percentage x →
      TotalOf before total → Binary64.wholeLimit ≤ total.natAbs →
      OverflowsFor wanted before line .totalTooLarge
  | share {percentage x total t negative} : WantedRow wanted line percentage →
      PercentageIs percentage x → TotalOf before total → Binary64.ofInt? total = some t →
      shareProduct x t = .infinite negative → OverflowsFor wanted before line .infiniteShare

theorem Overflowing.exists_cause (h : Overflowing wanted before line) :
    ∃ cause, OverflowsFor wanted before line cause := by
  cases h with
  | total hw hx ht hn => exact ⟨_, .total hw hx ht (Binary64.ofInt?_eq_none_iff.1 hn)⟩
  | share hw hx ht hn hp => exact ⟨_, .share hw hx ht hn hp⟩

theorem OverflowsFor.overflowing {cause : ReportOverflow}
    (h : OverflowsFor wanted before line cause) : Overflowing wanted before line := by
  cases h with
  | total hw hx ht hn => exact .total hw hx ht (Binary64.ofInt?_eq_none_iff.2 hn)
  | share hw hx ht hn hp => exact .share hw hx ht hn hp

/-- **The cause is the one the reading stops with.** -/
theorem overflowsFor_iff (process : String) (ht : TotalOf before s.total) {cause : ReportOverflow} :
    OverflowsFor wanted before line cause ↔
      s.step process wanted (ReportLine.read line) = .error (.overflow cause) := by
  have hstep : ∀ {c : ReportOverflow}, OverflowsFor wanted before line c →
      s.step process wanted (ReportLine.read line) = .error (.overflow c) := by
    intro c h
    cases h with
    | total hw hx htot hn =>
      obtain rfl := htot.unique ht
      exact step_wantedRow hw
        (rowShare_of_percentageIs hx (.totalTooLarge (Binary64.ofInt?_eq_none_iff.2 hn)))
    | share hw hx htot hn hp =>
      obtain rfl := htot.unique ht
      exact step_wantedRow hw (rowShare_of_percentageIs hx (.infinite hn hp))
  refine ⟨hstep, fun h => ?_⟩
  obtain ⟨c, hc⟩ := Overflowing.exists_cause (step_stop ht h)
  have he := (hstep hc).symm.trans h
  cases he
  exact hc

/-- **Why a text has no result:** its first bad line leaves none, for the same cause. -/
theorem parseReport_eq_error_iff_overflowsFor {cause : ReportOverflow} :
    parseReport text process wanted = .error cause ↔
      ∃ front line rest, lines text.toList = front ++ line :: rest ∧ AllFit wanted front ∧
        OverflowsFor wanted front line cause := by
  constructor
  · intro h
    rcases parseReport_cases text process wanted with
      ⟨s, -, hp⟩ | ⟨front, line, rest, s, stop, hl, hs, hstop, hp⟩
    · rw [h] at hp
      cases hp
    · rw [h] at hp
      cases stop with
      | malformed => cases hp
      | overflow =>
        cases hp
        exact ⟨front, line, rest, hl, (allFit_iff process).2 ⟨s, hs⟩,
          (overflowsFor_iff process (stateAfter?_total hs)).2 hstop⟩
  · rintro ⟨front, line, rest, hl, hf, ho⟩
    obtain ⟨s, hs⟩ := (allFit_iff process).1 hf
    unfold parseReport
    rw [hl, readLines_stop hs ((overflowsFor_iff process (stateAfter?_total hs)).1 ho)]
    rfl

/-! ## 3. Figures in the range -/

/-- **Figures in the range:** totals that are doubles, and percentages of up to a hundred or not
numbers at all.  All other lines may be anything. -/
structure InRange (wanted : List String) (ls : List (List Char)) : Prop where
  totals : ∀ line ∈ ls, ∀ value n, Header line "Event count".toList value →
    Numeral.readInteger (String.ofList (trim value)) = .ok n → n.natAbs < Binary64.wholeLimit
  percentages : ∀ line ∈ ls, ∀ percentage x, WantedRow wanted line percentage →
    PercentageIs percentage x → x = .nan ∨ x.atMostHundred = true

/-- Whether the figure of a line is in the range. -/
def figureInRange (wanted : List String) : ReportLine → Bool
  | .total text =>
    match Numeral.readInteger text with
    | .ok n => n.natAbs < Binary64.wholeLimit
    | .error _ => true
  | .row percentage symbol =>
    !wanted.contains symbol ||
      match Numeral.readDouble (withoutPercentSign percentage) with
      | .ok x => x = .nan || x.atMostHundred
      | .error _ => true
  | _ => true

/-- **Figures are in the range if each line's is.** -/
theorem inRange_of_figures {ls : List (List Char)}
    (h : ls.all fun line => figureInRange wanted (ReportLine.read line)) : InRange wanted ls := by
  rw [List.all_eq_true] at h
  constructor
  · intro line hline value n hh hn
    have hf := h line hline
    rw [read_eq_total_iff.2 ⟨value, hh, rfl⟩, figureInRange, hn] at hf
    exact of_decide_eq_true hf
  · rintro line hline percentage x ⟨hrow, symbol, hfields, hw⟩ hx
    have hf := h line hline
    rw [(ReadsAs.row hrow hfields).read_eq, figureInRange, List.contains_iff_mem.2 hw, hx,
      Bool.not_true, Bool.false_or] at hf
    rcases (Bool.or_eq_true_iff).1 hf with hf | hf
    · exact Or.inl (of_decide_eq_true hf)
    · exact Or.inr hf

/-- The total of lines in the range is a double. -/
theorem InRange.total_lt {ls : List (List Char)} {total : Int} (h : InRange wanted ls)
    (hsub : before ⊆ ls) (ht : TotalOf before total) : total.natAbs < Binary64.wholeLimit := by
  cases ht with
  | zero =>
    have hpos : 0 < Binary64.wholeLimit := by decide +kernel
    exact hpos
  | counted hl hn =>
    obtain ⟨front, line, rest, rfl, hh, -⟩ := hl
    exact h.totals line (hsub (List.mem_append_right _ List.mem_cons_self)) _ _ hh hn

/-- **Figures in the range leave a result.** -/
theorem InRange.not_overflowing {ls : List (List Char)} (h : InRange wanted ls)
    (hsub : before ⊆ ls) (hline : line ∈ ls) : ¬ Overflowing wanted before line := by
  intro ho
  cases ho with
  | total hw hx ht hn =>
    exact Nat.not_lt.2 (Binary64.ofInt?_eq_none_iff.1 hn) (h.total_lt hsub ht)
  | @share percentage x total t negative hw hx ht hn hp =>
    rcases h.percentages line hline percentage x hw hx with rfl | hle
    · cases hp
    · obtain ⟨s, u, hu, hfin⟩ := Binary64.shareProduct_finite hle hn
      rw [hfin] at hp
      cases hp

/-! ## 4. Which reports have a result -/

/-- **Which reports have a result,** complete or partial.  A report has none exactly if its first
bad line overflows, for the cause that is told; every other has one, which holds what the lines up
to its end or up to its first malformed line write.  Figures in the range always leave a result. -/
theorem parseReport_hasResult (text process : String) (wanted : List String) :
    (∀ cause, parseReport text process wanted = .error cause ↔
      ∃ front line rest, lines text.toList = front ++ line :: rest ∧ AllFit wanted front ∧
        OverflowsFor wanted front line cause) ∧
    (¬ Overflows wanted text →
      ∃ parsed, parseReport text process wanted = .ok parsed ∧
        Gathers process wanted (lines text.toList) parsed) ∧
    (InRange wanted (lines text.toList) → ¬ Overflows wanted text) := by
  refine ⟨fun cause => parseReport_eq_error_iff_overflowsFor, fun h => ?_, fun h => ?_⟩
  · cases hp : parseReport text process wanted with
    | error cause => exact absurd ((parseReport_eq_error_iff process).1 ⟨cause, hp⟩) h
    | ok parsed => exact ⟨parsed, rfl, parseReport_gathers hp⟩
  · rintro ⟨front, line, rest, hl, -, ho⟩
    rw [hl] at h
    exact h.not_overflowing (List.subset_append_left front _)
      (List.mem_append_right _ List.mem_cons_self) ho

/-- A row of all of its total, and one whose share is not a number. -/
def wholeShare : String :=
  "Event: cycles\nEvent count: 200\n100.00%  12  foo()\nnan  12%  foo()\n"

/-- Figures in the range have a result, if only a partial one. -/
theorem parseReport_hasResult_wholeShare :
    InRange ["foo()"] (lines wholeShare.toList) ∧
      ∃ parsed, parseReport wholeShare "sf" ["foo()"] = .ok parsed ∧
        Gathers "sf" ["foo()"] (lines wholeShare.toList) parsed := by
  have hrange : InRange ["foo()"] (lines wholeShare.toList) := inRange_of_figures (by decide +kernel)
  obtain ⟨-, hresult, hin⟩ := parseReport_hasResult wholeShare "sf" ["foo()"]
  exact ⟨hrange, hresult (hin hrange)⟩

/-- A row with an infinite percentage. -/
def infiniteRow : String := "Event: cycles\nEvent count: 200\ninf%  12  foo()\n"

/-- **Not every report has a result.** -/
theorem parseReport_withoutResult :
    parseReport infiniteRow "sf" ["foo()"] = .error .infiniteShare ∧
      ¬ ∀ text process wanted, ∃ parsed, parseReport text process wanted = .ok parsed := by
  have hinfinite : parseReport infiniteRow "sf" ["foo()"] = .error .infiniteShare := by
    decide +kernel
  refine ⟨hinfinite, fun h => ?_⟩
  obtain ⟨parsed, hp⟩ := h infiniteRow "sf" ["foo()"]
  rw [hinfinite] at hp
  cases hp

end DeviceSampling
