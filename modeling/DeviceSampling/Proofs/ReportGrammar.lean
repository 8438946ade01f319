/-
# Which reports are read to their end

A line of a report can be bad in two ways.  A malformed one is a total that is no integer, a row
with a field missing, or a row of a wanted symbol whose percentage is no number or has no share; it
ends the reading with what was gathered.  An overflowing one is a row of a wanted symbol whose
total or share is beyond the doubles; it leaves no result.  All other lines fit.

* `Malformed`, `Overflowing`: the bad lines, told by the lines before them;
* `malformed_step`, `overflowing_step`, `step_stop`: the reading stops at just these;
* `parseReport_grammar`: **which reports are read to their end, and what becomes of the others.**
-/
import Mathlib.Data.List.Induction
import DeviceSampling.Proofs.OneLine
import DeviceSampling.Proofs.ReportReading
import DeviceSampling.Proofs.ShareRange

namespace DeviceSampling

open Text

/-! ## 1. Bad lines -/

/-- The percentage is the text of a double. -/
def PercentageIs (percentage : List Char) (x : Binary64) : Prop :=
  Numeral.readDouble (withoutPercentSign (String.ofList percentage)) = .ok x

/-- **A malformed line,** after the lines before it. -/
inductive Malformed (wanted : List String) (before : List (List Char)) (line : List Char) : Prop
  /-- The total is no integer. -/
  | total {value} : Header line "Event count".toList value →
      (∀ n, Numeral.readInteger (String.ofList (trim value)) ≠ .ok n) →
      Malformed wanted before line
  /-- A field is missing. -/
  | short : Row line → (∀ percentage symbol, ¬ RowFields line percentage symbol) →
      Malformed wanted before line
  /-- The percentage is no number. -/
  | percentage {percentage} : WantedRow wanted line percentage →
      (∀ x, ¬ PercentageIs percentage x) → Malformed wanted before line
  /-- The share is not a number. -/
  | share {percentage x total t} : WantedRow wanted line percentage → PercentageIs percentage x →
      TotalOf before total → Binary64.ofInt? total = some t → shareProduct x t = .nan →
      Malformed wanted before line

/-- **An overflowing line,** after the lines before it. -/
inductive Overflowing (wanted : List String) (before : List (List Char)) (line : List Char) : Prop
  /-- The total is no double. -/
  | total {percentage x total} : WantedRow wanted line percentage → PercentageIs percentage x →
      TotalOf before total → Binary64.ofInt? total = none → Overflowing wanted before line
  /-- The share is infinite. -/
  | share {percentage x total t negative} : WantedRow wanted line percentage →
      PercentageIs percentage x → TotalOf before total → Binary64.ofInt? total = some t →
      shareProduct x t = .infinite negative → Overflowing wanted before line

/-- A line that is not bad. -/
def Fits (wanted : List String) (before : List (List Char)) (line : List Char) : Prop :=
  ¬ Malformed wanted before line ∧ ¬ Overflowing wanted before line

/-- No line is bad. -/
def AllFit (wanted : List String) (ls : List (List Char)) : Prop :=
  ∀ i line, ls[i]? = some line → Fits wanted (ls.take i) line

/-- The way in which a line is bad that stops the reading so. -/
def StopsFor (wanted : List String) (before : List (List Char)) (line : List Char) :
    LineStop → Prop
  | .malformed _ => Malformed wanted before line
  | .overflow _ => Overflowing wanted before line

/-! ## 2. One line -/

section Steps

variable {process : String} {wanted : List String} {before : List (List Char)} {line : List Char}
variable {s : ReportState}

/-- A row of a wanted symbol is taken on by its share. -/
theorem step_wantedRow {percentage : List Char} (h : WantedRow wanted line percentage)
    {stop : LineStop} (hr : rowShare (String.ofList percentage) s.total = .error stop) :
    s.step process wanted (ReportLine.read line) = .error stop := by
  obtain ⟨hrow, symbol, hf, hw⟩ := h
  rw [(ReadsAs.row hrow hf).read_eq]
  simp only [ReportState.step]
  rw [if_pos (List.contains_iff_mem.2 hw), hr]
  rfl

theorem rowShare_of_percentageIs {percentage : List Char} {x : Binary64} {total : Int}
    {fault : ShareFault} (hx : PercentageIs percentage x) (hs : ShareFails x total fault) :
    rowShare (String.ofList percentage) total = .error
      (match fault with
        | .notANumber => .malformed .shareNotANumber
        | .infinite => .overflow .infiniteShare
        | .totalTooLarge => .overflow .totalTooLarge) := by
  unfold rowShare
  rw [hx]
  dsimp only
  rw [share_eq_error_iff.2 hs]
  cases fault with
  | totalTooLarge => rfl
  | infinite => rfl
  | notANumber => rfl

/-- **A malformed line stops the reading.** -/
theorem malformed_step (process : String) (ht : TotalOf before s.total)
    (h : Malformed wanted before line) :
    ∃ cause, s.step process wanted (ReportLine.read line) = .error (.malformed cause) := by
  cases h with
  | @total value hh hn =>
    rw [(ReadsAs.total hh).read_eq]
    simp only [ReportState.step]
    cases hr : Numeral.readInteger (String.ofList (trim value)) with
    | error fault => exact ⟨_, rfl⟩
    | ok n => exact absurd hr (hn n)
  | short hrow hno =>
    rw [(ReadsAs.shortRow hrow hno).read_eq]
    exact ⟨_, rfl⟩
  | @percentage percentage hw hx =>
    cases hr : Numeral.readDouble (withoutPercentSign (String.ofList percentage)) with
    | ok x => exact absurd hr (hx x)
    | error fault =>
      refine ⟨.percentage fault, step_wantedRow hw ?_⟩
      unfold rowShare
      rw [hr]
  | share hw hx htot hof hp =>
    obtain rfl := htot.unique ht
    exact ⟨_, step_wantedRow hw (rowShare_of_percentageIs hx (.notANumber hof hp))⟩

/-- **An overflowing line stops the reading.** -/
theorem overflowing_step (process : String) (ht : TotalOf before s.total)
    (h : Overflowing wanted before line) :
    ∃ cause, s.step process wanted (ReportLine.read line) = .error (.overflow cause) := by
  cases h with
  | total hw hx htot hof =>
    obtain rfl := htot.unique ht
    exact ⟨_, step_wantedRow hw (rowShare_of_percentageIs hx (.totalTooLarge hof))⟩
  | share hw hx htot hof hp =>
    obtain rfl := htot.unique ht
    exact ⟨_, step_wantedRow hw (rowShare_of_percentageIs hx (.infinite hof hp))⟩

/-- A row of a wanted symbol that stops the reading is bad. -/
theorem stopsFor_of_rowShare {percentage : List Char} (ht : TotalOf before s.total)
    (hw : WantedRow wanted line percentage) {stop : LineStop}
    (h : rowShare (String.ofList percentage) s.total = .error stop) :
    StopsFor wanted before line stop := by
  unfold rowShare at h
  cases hr : Numeral.readDouble (withoutPercentSign (String.ofList percentage)) with
  | error fault =>
    rw [hr] at h
    cases h
    refine Malformed.percentage hw fun x hx => ?_
    rw [PercentageIs, hr] at hx
    cases hx
  | ok x =>
    rw [hr] at h
    dsimp only at h
    cases hs : share x s.total with
    | ok n =>
      rw [hs] at h
      cases h
    | error fault =>
      rw [hs] at h
      cases share_eq_error_iff.1 hs with
      | totalTooLarge hof =>
        cases h
        exact Overflowing.total hw hr ht hof
      | notANumber hof hp =>
        cases h
        exact Malformed.share hw hr ht hof hp
      | infinite hof hp =>
        cases h
        exact Overflowing.share hw hr ht hof hp

/-- **Only bad lines stop the reading.** -/
theorem step_stop (ht : TotalOf before s.total) {stop : LineStop}
    (h : s.step process wanted (ReportLine.read line) = .error stop) :
    StopsFor wanted before line stop := by
  have hr := read_readsAs line
  generalize ReportLine.read line = read at hr h
  cases hr with
  | event => cases h
  | total hh =>
    simp only [ReportState.step] at h
    split at h
    · next fault hn =>
      cases h
      refine Malformed.total hh fun n hn' => ?_
      rw [hn] at hn'
      cases hn'
    · cases h
  | otherHeader => cases h
  | @row percentage symbol hrow hf =>
    simp only [ReportState.step] at h
    split at h
    · next hw =>
      cases hs : rowShare (String.ofList percentage) s.total with
      | ok n =>
        rw [hs] at h
        cases h
      | error stop' =>
        rw [hs] at h
        cases h
        exact stopsFor_of_rowShare ht ⟨hrow, symbol, hf, List.contains_iff_mem.1 hw⟩ hs
    · cases h
  | shortRow hrow hno =>
    cases h
    exact Malformed.short hrow hno
  | plain => cases h

/-- **A line fits exactly if the reading goes on.** -/
theorem fits_iff (process : String) (ht : TotalOf before s.total) :
    Fits wanted before line ↔
      ∃ s', s.step process wanted (ReportLine.read line) = .ok s' := by
  constructor
  · rintro ⟨hm, ho⟩
    cases hs : s.step process wanted (ReportLine.read line) with
    | ok s' => exact ⟨s', rfl⟩
    | error stop =>
      have hstop := step_stop ht hs
      cases stop with
      | malformed cause => exact absurd hstop hm
      | overflow cause => exact absurd hstop ho
  · rintro ⟨s', hs⟩
    constructor
    · intro h
      obtain ⟨cause, hc⟩ := malformed_step process ht h
      rw [hs] at hc
      cases hc
    · intro h
      obtain ⟨cause, hc⟩ := overflowing_step process ht h
      rw [hs] at hc
      cases hc

end Steps
/-! ## 3. All lines -/

section Readings

variable {process : String} {wanted : List String} {ls : List (List Char)} {line : List Char}

theorem allFit_snoc : AllFit wanted (ls ++ [line]) ↔ AllFit wanted ls ∧ Fits wanted ls line := by
  constructor
  · intro h
    refine ⟨fun i l hl => ?_, ?_⟩
    · have hi : i < ls.length := (List.getElem?_eq_some_iff.1 hl).1
      have hf := h i l (by rw [List.getElem?_append_left hi]; exact hl)
      rwa [List.take_append_of_le_length (Nat.le_of_lt hi)] at hf
    · have hf := h ls.length line List.getElem?_concat_length
      rwa [List.take_left] at hf
  · rintro ⟨hls, hline⟩ i l hl
    have hi : i < ls.length + 1 := by
      have := (List.getElem?_eq_some_iff.1 hl).1
      rwa [List.length_append, List.length_singleton] at this
    rcases Nat.lt_or_eq_of_le (Nat.le_of_lt_succ hi) with hi | rfl
    · rw [List.getElem?_append_left hi] at hl
      rw [List.take_append_of_le_length (Nat.le_of_lt hi)]
      exact hls i l hl
    · rw [List.getElem?_concat_length] at hl
      cases hl
      rw [List.take_left]
      exact hline

/-- **Lines are read to their end exactly if all of them fit.** -/
theorem allFit_iff (process : String) : AllFit wanted ls ↔ ∃ s, stateAfter? process wanted {} ls = some s := by
  constructor
  · induction ls using List.reverseRecOn with
    | nil => exact fun _ => ⟨{}, rfl⟩
    | append_singleton ls line ih =>
      intro h
      obtain ⟨hls, hline⟩ := allFit_snoc.1 h
      obtain ⟨s, hs⟩ := ih hls
      obtain ⟨s', hs'⟩ := (fits_iff process (stateAfter?_total hs)).1 hline
      refine ⟨s', ?_⟩
      rw [stateAfter?_append [line] hs, stateAfter?, hs']
      rfl
  · rintro ⟨s, hs⟩
    have hboth := stateAfter?_induct (P := fun ls s => AllFit wanted ls ∧ TotalOf ls s.total)
      ⟨fun i l hl => absurd hl (by rw [List.getElem?_nil]; exact Option.some_ne_none l |>.symm),
        .zero (noHeader_nil _)⟩ ?_ hs
    · exact hboth.1
    · rintro ls s line s' ⟨hls, ht⟩ hstep
      exact ⟨allFit_snoc.2 ⟨hls, (fits_iff process ht).2 ⟨s', hstep⟩⟩, step_total ht hstep⟩

/-! ## 4. Lines without a say -/

/-- **A line without a say:** a header of another label, a row of a symbol that is not wanted, or
neither header nor row. -/
inductive Ignored (wanted : List String) (line : List Char) : Prop
  | header {label value} : Header line label value → label ≠ "Event".toList →
      label ≠ "Event count".toList → Ignored wanted line
  | row {percentage symbol} : Row line → RowFields line percentage symbol →
      String.ofList symbol ∉ wanted → Ignored wanted line
  | plain : ¬ [':', ' '] <:+: line → '%' ∉ line → Ignored wanted line

theorem Ignored.step (h : Ignored wanted line) (s : ReportState) :
    s.step process wanted (ReportLine.read line) = .ok s := by
  cases h with
  | header hh hl hl' =>
    rw [(ReadsAs.otherHeader hh hl hl').read_eq]
    rfl
  | row hrow hf hw =>
    rw [(ReadsAs.row hrow hf).read_eq]
    exact if_neg fun h => hw (List.contains_iff_mem.1 h)
  | plain hno hp =>
    rw [(ReadsAs.plain hno hp).read_eq]
    rfl

/-- The outcome of a reading without the number of the line it stopped at. -/
def unnumbered : Except ReportOverflow ParsedReport →
    Except ReportOverflow (Metrics × Option (String × LineFault))
  | .ok parsed => .ok (parsed.metrics, parsed.fault.map fun fault => (fault.line, fault.cause))
  | .error cause => .error cause

/-- Where a reading starts to count has no say. -/
theorem unnumbered_readLines (s : ReportState) (before before' : Nat) :
    ∀ ls : List (List Char), unnumbered (readLines process wanted s before ls) =
      unnumbered (readLines process wanted s before' ls)
  | [] => rfl
  | line :: rest => by
    unfold readLines
    cases s.step process wanted (ReportLine.read line) with
    | ok s' => exact unnumbered_readLines s' (before + 1) (before' + 1) rest
    | error stop =>
      cases stop with
      | malformed => rfl
      | overflow => rfl

/-- **A line without a say can be left out.** -/
theorem unnumbered_readLines_ignored (h : Ignored wanted line) (rest : List (List Char)) :
    ∀ (front : List (List Char)) (s : ReportState) (before : Nat),
      unnumbered (readLines process wanted s before (front ++ line :: rest)) =
        unnumbered (readLines process wanted s before (front ++ rest))
  | [], s, before => by
    rw [List.nil_append, List.nil_append, readLines, h.step]
    exact unnumbered_readLines s (before + 1) before rest
  | l :: front, s, before => by
    rw [List.cons_append, List.cons_append]
    unfold readLines
    cases s.step process wanted (ReportLine.read l) with
    | ok s' => exact unnumbered_readLines_ignored h rest front s' (before + 1)
    | error stop =>
      cases stop with
      | malformed => rfl
      | overflow => rfl

/-- A line that is no total and no row of a wanted symbol fits, if no field is missing. -/
theorem fits_of {before : List (List Char)}
    (htotal : ∀ value, ¬ Header line "Event count".toList value)
    (hfields : Row line → ∃ percentage symbol, RowFields line percentage symbol)
    (hrow : ∀ percentage, ¬ WantedRow wanted line percentage) : Fits wanted before line := by
  constructor
  · intro hm
    cases hm with
    | total h => exact htotal _ h
    | short h hno =>
      obtain ⟨percentage, symbol, hf⟩ := hfields h
      exact hno percentage symbol hf
    | percentage h => exact hrow _ h
    | share h => exact hrow _ h
  · intro ho
    cases ho with
    | total h => exact hrow _ h
    | share h => exact hrow _ h

/-- A header of another label than a total's is never bad. -/
theorem fits_of_header {before : List (List Char)} {label value : List Char}
    (h : Header line label value) (hl : label ≠ "Event count".toList) :
    Fits wanted before line :=
  fits_of (no_header_of_header h hl) (fun hr => absurd hr (not_row_of_header h))
    fun _ hw => not_row_of_header h hw.1

/-- A line without a say is never bad. -/
theorem fits_of_ignored {before : List (List Char)} (h : Ignored wanted line) :
    Fits wanted before line := by
  cases h with
  | header hh hl hl' => exact fits_of_header hh hl'
  | row hrow hf hw =>
    exact fits_of (fun _ h => not_row_of_header h hrow) (fun _ => ⟨_, _, hf⟩) (not_wantedRow hf hw)
  | plain hno hp =>
    exact fits_of (no_header_of_no_separator hno _) (fun hr => absurd hr.2 hp) fun _ hw => hp hw.1.2

end Readings

/-! ## 5. Texts -/

/-- The text of some lines, a line feed after each. -/
def unlines (ls : List (List Char)) : List Char := ls.flatMap (· ++ ['\n'])

/-- **The lines of a text of lines are those.** -/
theorem lines_unlines : ∀ ls : List (List Char), (∀ l ∈ ls, ∀ c ∈ l, isBoundary c = false) →
    lines (unlines ls) = ls
  | [], _ => rfl
  | l :: ls, h => by
    have ih := lines_unlines ls fun m hm => h m (List.mem_cons_of_mem _ hm)
    have hs : unlines (l :: ls) = l ++ '\n' :: unlines ls := by
      unfold unlines
      rw [List.flatMap_cons, List.append_assoc]
      rfl
    rw [hs, lines_append_lineFeed _ l (h l List.mem_cons_self), ih]

/-- The first lines of a text are the lines of a text. -/
theorem exists_lines_eq {text : String} {front rest : List (List Char)}
    (h : lines text.toList = front ++ rest) : ∃ text' : String, lines text'.toList = front := by
  refine ⟨String.ofList (unlines front), ?_⟩
  rw [String.toList_ofList]
  refine lines_unlines front fun l hl c hc => ?_
  have hm : l ∈ lines text.toList := by
    rw [h]
    exact List.mem_append_left _ hl
  exact not_isBoundary_of_mem_lines hm hc

/-! ## 6. Which reports are read to their end -/

/-- The message of a fault starts with the number of the line. -/
theorem ReportFault.message_eq (fault : ReportFault) :
    fault.message = "line " ++ toString fault.number ++ ": " ++
      (fault.cause.message ++ " (" ++ quote fault.line ++ ")") := by
  unfold ReportFault.message
  simp only [String.append_assoc]

section Texts

variable {text process : String} {wanted : List String}

/-- A text is read to its end exactly if all its lines fit. -/
theorem parseReport_complete_iff :
    (∃ parsed, parseReport text process wanted = .ok parsed ∧ parsed.complete = true) ↔
      AllFit wanted (lines text.toList) := by
  rw [allFit_iff process]
  constructor
  · rintro ⟨⟨m, fault⟩, h, hc⟩
    obtain rfl : fault = none := Option.isNone_iff_eq_none.1 hc
    obtain ⟨s, hs, -⟩ := stateAfter?_of_complete h
    exact ⟨s, hs⟩
  · rintro ⟨s, hs⟩
    exact ⟨_, readLines_complete hs, rfl⟩

variable {front rest : List (List Char)} {line : List Char}

/-- A text is read up to its first malformed line. -/
theorem parseReport_malformed (h : lines text.toList = front ++ line :: rest)
    (hf : AllFit wanted front) (hm : Malformed wanted front line) :
    ∃ m cause, parseReport text process wanted =
        .ok ⟨m, some ⟨front.length + 1, String.ofList line, cause⟩⟩ ∧
      (∀ text' : String, lines text'.toList = front →
        parseReport text' process wanted = .ok ⟨m, none⟩) ∧
      (∀ text' : String, front ++ [line] <+: lines text'.toList →
        parseReport text' process wanted = parseReport text process wanted) := by
  obtain ⟨s, hs⟩ := (allFit_iff process).1 hf
  obtain ⟨cause, hc⟩ := malformed_step process (stateAfter?_total hs) hm
  have hread : ∀ (t : String) (tail : List (List Char)), lines t.toList = front ++ line :: tail →
      parseReport t process wanted =
        .ok ⟨s.metrics, some ⟨front.length + 1, String.ofList line, cause⟩⟩ := by
    intro t tail ht
    unfold parseReport
    rw [ht, readLines_stop hs hc, Nat.zero_add]
    rfl
  refine ⟨s.metrics, cause, hread text rest h, fun text' h' => ?_, fun text' h' => ?_⟩
  · unfold parseReport
    rw [h']
    exact readLines_complete hs
  · obtain ⟨tail, ht⟩ := h'
    rw [List.append_assoc, List.singleton_append] at ht
    rw [hread text' tail ht.symm, hread text rest h]

/-- A text whose first bad line overflows has no result. -/
theorem parseReport_overflowing (h : lines text.toList = front ++ line :: rest)
    (hf : AllFit wanted front) (ho : Overflowing wanted front line) :
    ∃ cause, parseReport text process wanted = .error cause := by
  obtain ⟨s, hs⟩ := (allFit_iff process).1 hf
  obtain ⟨cause, hc⟩ := overflowing_step process (stateAfter?_total hs) ho
  refine ⟨cause, ?_⟩
  unfold parseReport
  rw [h, readLines_stop hs hc]
  rfl

/-- The first bad line of a text overflows. -/
def Overflows (wanted : List String) (text : String) : Prop :=
  ∃ front line rest, lines text.toList = front ++ line :: rest ∧ AllFit wanted front ∧
    Overflowing wanted front line

/-- **A text has no result exactly if its first bad line overflows,** whatever the process. -/
theorem parseReport_eq_error_iff (process : String) :
    (∃ cause, parseReport text process wanted = .error cause) ↔ Overflows wanted text := by
  constructor
  · rintro ⟨cause, h⟩
    rcases parseReport_cases text process wanted with
      ⟨s, -, hp⟩ | ⟨front, line, rest, s, stop, hl, hs, hstop, hp⟩
    · rw [h] at hp
      cases hp
    · rw [h] at hp
      cases stop with
      | malformed => cases hp
      | overflow =>
        exact ⟨front, line, rest, hl, (allFit_iff process).2 ⟨s, hs⟩, step_stop (stateAfter?_total hs) hstop⟩
  · rintro ⟨front, line, rest, h, hf, ho⟩
    exact parseReport_overflowing h hf ho

/-- A text that has a result does not overflow. -/
theorem not_overflows_of_isSome (process : String)
    (h : (parseReport text process wanted).toOption.isSome = true) : ¬ Overflows wanted text := by
  rw [← parseReport_eq_error_iff process]
  rintro ⟨cause, hc⟩
  rw [hc] at h
  cases h

end Texts

/-- **Which reports are read to their end:** those whose lines all fit.  Else the first bad line
decides.  A malformed one ends the reading with the metrics of the lines before it, whatever comes
after it; an overflowing one leaves no result.  Headers but those of a total are never bad, and a
line without a say is never bad and can be left out. -/
theorem parseReport_grammar (text process : String) (wanted : List String) :
    ((∃ parsed, parseReport text process wanted = .ok parsed ∧ parsed.complete = true) ↔
      AllFit wanted (lines text.toList)) ∧
    (∀ front line rest, lines text.toList = front ++ line :: rest → AllFit wanted front →
      (Malformed wanted front line →
        ∃ m fault said, parseReport text process wanted = .ok ⟨m, some fault⟩ ∧
          fault.number = front.length + 1 ∧ fault.line = String.ofList line ∧
          fault.message = "line " ++ toString (front.length + 1) ++ ": " ++ said ∧
          (∃ text' : String, lines text'.toList = front) ∧
          (∀ text' : String, lines text'.toList = front →
            parseReport text' process wanted = .ok ⟨m, none⟩) ∧
          (∀ text' : String, front ++ [line] <+: lines text'.toList →
            parseReport text' process wanted = parseReport text process wanted)) ∧
      (Overflowing wanted front line → ∃ cause, parseReport text process wanted = .error cause)) ∧
    (∀ before line label value, Header line label value → label ≠ "Event count".toList →
      Fits wanted before line) ∧
    (∀ line, Ignored wanted line → (∀ before, Fits wanted before line) ∧
      ∀ (text' : String) front rest, lines text.toList = front ++ line :: rest →
        lines text'.toList = front ++ rest →
        unnumbered (parseReport text process wanted) =
          unnumbered (parseReport text' process wanted)) := by
  refine ⟨parseReport_complete_iff, ?_, ?_, ?_⟩
  · intro front line rest h hf
    refine ⟨fun hm => ?_, parseReport_overflowing h hf⟩
    obtain ⟨m, cause, hparse, hbefore, hafter⟩ := parseReport_malformed h hf hm
    exact ⟨m, _, _, hparse, rfl, rfl, ReportFault.message_eq _, exists_lines_eq h, hbefore, hafter⟩
  · intro before line label value h hl
    exact fits_of_header h hl
  · intro line hi
    refine ⟨fun before => fits_of_ignored hi, fun text' front rest h h' => ?_⟩
    unfold parseReport
    rw [h, h']
    exact unnumbered_readLines_ignored hi rest front {} 0

/-- A row without a symbol ends the reading, and the total after it is not read. -/
example : parseReport "Event: cycles\nEvent count: 200\n50.00%  12\nEvent count: 300\n" "sf" ["foo()"] =
    .ok ⟨⟨[("cycles-sf", "200")]⟩, some ⟨3, "50.00%  12", .missingField⟩⟩ := by
  decide +kernel

end DeviceSampling
