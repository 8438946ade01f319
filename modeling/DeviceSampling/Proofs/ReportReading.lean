/-
# What the lines so far have told

While a report is read, the event and the total change with the headers only.  Here both are said
from the lines alone: they are those of the last header of the label.

* `LastHeader`: the last header of a label among some lines;
* `EventOf`, `TotalOf`: the event and the total after some lines;
* `step_event`, `step_total`: a line passes the event and the total on, unless it gives one;
* `stateAfter?_induct`: what each line keeps holds after all; `stateAfter?_total`: **the total in the
  state is the total of the lines;**
* `parseReport_cases`: how a text is read.
-/
import DeviceSampling.Proofs.ReportLines
import DeviceSampling.Report.Parser

namespace DeviceSampling

open Text

/-! ## 1. The last header -/

/-- No line is a header of the label. -/
def NoHeader (label : List Char) (ls : List (List Char)) : Prop :=
  ∀ line ∈ ls, ∀ value, ¬ Header line label value

/-- The last header of the label has the value. -/
def LastHeader (label : List Char) (ls : List (List Char)) (value : List Char) : Prop :=
  ∃ front line rest,
    ls = front ++ line :: rest ∧ Header line label value ∧ NoHeader label rest

theorem noHeader_nil (label : List Char) : NoHeader label [] := by
  intro line h
  cases h

/-- After a header of the label the last one is that. -/
theorem lastHeader_snoc_self {label line value : List Char} (ls : List (List Char))
    (h : Header line label value) : LastHeader label (ls ++ [line]) value :=
  ⟨ls, line, [], rfl, h, noHeader_nil label⟩

/-- Another line leaves the labels without a header as they are. -/
theorem noHeader_snoc {label line : List Char} {ls : List (List Char)} (h : NoHeader label ls)
    (hno : ∀ value, ¬ Header line label value) : NoHeader label (ls ++ [line]) := by
  intro l hl
  rcases List.mem_append.1 hl with hl | hl
  · exact h l hl
  · rw [List.mem_singleton.1 hl]
    exact hno

/-- Another line leaves the last header as it is. -/
theorem lastHeader_snoc {label line value : List Char} {ls : List (List Char)}
    (h : LastHeader label ls value) (hno : ∀ value, ¬ Header line label value) :
    LastHeader label (ls ++ [line]) value := by
  obtain ⟨front, l, rest, rfl, hl, hrest⟩ := h
  refine ⟨front, l, rest ++ [line], ?_, hl, noHeader_snoc hrest hno⟩
  rw [List.append_assoc, List.cons_append]

theorem not_noHeader {label value : List Char} {ls : List (List Char)}
    (h : LastHeader label ls value) : ¬ NoHeader label ls := by
  obtain ⟨front, line, rest, rfl, hl, -⟩ := h
  intro hno
  exact hno line (List.mem_append_right _ List.mem_cons_self) value hl

/-- There is one last header. -/
theorem LastHeader.unique {label value value' : List Char} {ls : List (List Char)}
    (h : LastHeader label ls value) (h' : LastHeader label ls value') : value = value' := by
  obtain ⟨front, line, rest, he, hl, hrest⟩ := h
  obtain ⟨front', line', rest', he', hl', hrest'⟩ := h'
  rw [he] at he'
  -- of two headers at different places the one in front has the other after it
  rcases List.append_eq_append_iff.1 he' with ⟨mid, hf, hm⟩ | ⟨mid, hf, hm⟩
  · cases mid with
    | nil =>
      obtain ⟨rfl, -⟩ := List.cons.inj hm
      exact (hl.unique hl').2
    | cons m mid =>
      obtain ⟨-, rfl⟩ := List.cons.inj hm
      exact absurd hl' (hrest line' (List.mem_append_right _ List.mem_cons_self) value')
  · cases mid with
    | nil =>
      obtain ⟨rfl, -⟩ := List.cons.inj hm
      exact (hl.unique hl').2
    | cons m mid =>
      obtain ⟨-, rfl⟩ := List.cons.inj hm
      exact absurd hl (hrest' line (List.mem_append_right _ List.mem_cons_self) value)

/-! ## 2. The event and the total -/

/-- The name in the value of an event header: all before the first space. -/
def eventName (value : List Char) : String := String.ofList (value.takeWhile (· ≠ ' '))

/-- **The event after some lines:** that of the last event header, or none yet. -/
inductive EventOf (ls : List (List Char)) : String → Prop
  | unnamed : NoHeader "Event".toList ls → EventOf ls ""
  | named {value} : LastHeader "Event".toList ls value → EventOf ls (eventName value)

/-- **The total after some lines:** that of the last total header, or zero. -/
inductive TotalOf (ls : List (List Char)) : Int → Prop
  | zero : NoHeader "Event count".toList ls → TotalOf ls 0
  | counted {value n} : LastHeader "Event count".toList ls value →
      Numeral.readInteger (String.ofList (trim value)) = .ok n → TotalOf ls n

theorem EventOf.unique {ls : List (List Char)} {event event' : String} (h : EventOf ls event)
    (h' : EventOf ls event') : event = event' := by
  cases h with
  | unnamed hno =>
    cases h' with
    | unnamed => rfl
    | named hl => exact absurd hno (not_noHeader hl)
  | named hl =>
    cases h' with
    | unnamed hno => exact absurd hno (not_noHeader hl)
    | named hl' => rw [hl.unique hl']

theorem TotalOf.unique {ls : List (List Char)} {total total' : Int} (h : TotalOf ls total)
    (h' : TotalOf ls total') : total = total' := by
  cases h with
  | zero hno =>
    cases h' with
    | zero => rfl
    | counted hl => exact absurd hno (not_noHeader hl)
  | counted hl hn =>
    cases h' with
    | zero hno => exact absurd hno (not_noHeader hl)
    | counted hl' hn' =>
      rw [hl.unique hl', hn'] at hn
      cases hn
      rfl

theorem eventOf_snoc {line : List Char} {ls : List (List Char)} {event : String}
    (h : EventOf ls event) (hno : ∀ value, ¬ Header line "Event".toList value) :
    EventOf (ls ++ [line]) event := by
  cases h with
  | unnamed h => exact .unnamed (noHeader_snoc h hno)
  | named h => exact .named (lastHeader_snoc h hno)

theorem totalOf_snoc {line : List Char} {ls : List (List Char)} {total : Int}
    (h : TotalOf ls total) (hno : ∀ value, ¬ Header line "Event count".toList value) :
    TotalOf (ls ++ [line]) total := by
  cases h with
  | zero h => exact .zero (noHeader_snoc h hno)
  | counted h hn => exact .counted (lastHeader_snoc h hno) hn

/-! ## 3. One line -/

/-- **What a well-formed line does** to the state. -/
inductive Passes (process : String) (wanted : List String) (s : ReportState) :
    ReportLine → ReportState → Prop
  | event (name : String) : Passes process wanted s (.event name) { s with event := name }
  | total {text n} : Numeral.readInteger text = .ok n →
      Passes process wanted s (.total text)
        { s with total := n, metrics := s.metrics.insert (metricKey s.event process none) text }
  | row {percentage symbol x n} : symbol ∈ wanted →
      Numeral.readDouble (withoutPercentSign percentage) = .ok x → share x s.total = .ok n →
      Passes process wanted s (.row percentage symbol)
        { s with
          metrics := s.metrics.insert (metricKey s.event process (some symbol)) (toString n) }
  | unwanted {percentage symbol} : symbol ∉ wanted →
      Passes process wanted s (.row percentage symbol) s
  | other : Passes process wanted s .other s

section Steps

variable {process : String} {wanted : List String} {ls : List (List Char)} {line : List Char}
variable {s s' : ReportState}

/-- A share of a row is one of a percentage that can be read. -/
theorem rowShare_eq_ok {percentage : String} {total n : Int} (h : rowShare percentage total = .ok n) :
    ∃ x, Numeral.readDouble (withoutPercentSign percentage) = .ok x ∧ share x total = .ok n := by
  unfold rowShare at h
  split at h
  · cases h
  · next x hx =>
    split at h
    · next hn =>
      cases h
      exact ⟨x, hx, hn⟩
    · cases h
    · cases h
    · cases h

theorem step_passes {read : ReportLine} (h : s.step process wanted read = .ok s') :
    Passes process wanted s read s' := by
  cases read with
  | event name =>
    cases h
    exact .event name
  | total text =>
    simp only [ReportState.step] at h
    split at h
    · cases h
    · next hn =>
      cases h
      exact .total hn
  | row percentage symbol =>
    simp only [ReportState.step] at h
    split at h
    · next hw =>
      cases hr : rowShare percentage s.total with
      | error => rw [hr] at h; cases h
      | ok n =>
        rw [hr] at h
        cases h
        obtain ⟨x, hx, hn⟩ := rowShare_eq_ok hr
        exact .row (List.contains_iff_mem.1 hw) hx hn
    · next hw =>
      cases h
      exact .unwanted fun hm => hw (List.contains_iff_mem.2 hm)
  | shortRow => cases h
  | other =>
    cases h
    exact .other

/-- A line that is no header is none of any label. -/
theorem no_header_of_no_separator (h : ¬ [':', ' '] <:+: line) (label value : List Char) :
    ¬ Header line label value := fun hh => h (exists_header_iff.1 ⟨label, value, hh⟩)

/-- A header of one label is none of another. -/
theorem no_header_of_header {label label' value : List Char} (h : Header line label value)
    (hne : label ≠ label') (value' : List Char) : ¬ Header line label' value' :=
  fun h' => hne (h.unique h').1

/-- A line passes the event on, unless it names one. -/
theorem step_event (he : EventOf ls s.event)
    (hs : s.step process wanted (ReportLine.read line) = .ok s') :
    EventOf (ls ++ [line]) s'.event := by
  have hp := step_passes hs
  have hr := read_readsAs line
  generalize ReportLine.read line = read at hr hp
  cases hr with
  | event hh =>
    cases hp
    exact .named (lastHeader_snoc_self ls hh)
  | total hh =>
    cases hp
    exact eventOf_snoc he (no_header_of_header hh (by decide))
  | otherHeader hh hne =>
    cases hp
    exact eventOf_snoc he (no_header_of_header hh hne)
  | row hrow =>
    cases hp with
    | row => exact eventOf_snoc he (no_header_of_no_separator hrow.1 _)
    | unwanted => exact eventOf_snoc he (no_header_of_no_separator hrow.1 _)
  | shortRow => cases hp
  | plain hno =>
    cases hp
    exact eventOf_snoc he (no_header_of_no_separator hno _)

/-- A line passes the total on, unless it gives one. -/
theorem step_total (ht : TotalOf ls s.total)
    (hs : s.step process wanted (ReportLine.read line) = .ok s') :
    TotalOf (ls ++ [line]) s'.total := by
  have hp := step_passes hs
  have hr := read_readsAs line
  generalize ReportLine.read line = read at hr hp
  cases hr with
  | event hh =>
    cases hp
    exact totalOf_snoc ht (no_header_of_header hh (by decide))
  | total hh =>
    cases hp with
    | total hn => exact .counted (lastHeader_snoc_self ls hh) hn
  | otherHeader hh hne hne' =>
    cases hp
    exact totalOf_snoc ht (no_header_of_header hh hne')
  | row hrow =>
    cases hp with
    | row => exact totalOf_snoc ht (no_header_of_no_separator hrow.1 _)
    | unwanted => exact totalOf_snoc ht (no_header_of_no_separator hrow.1 _)
  | shortRow => cases hp
  | plain hno =>
    cases hp
    exact totalOf_snoc ht (no_header_of_no_separator hno _)

end Steps

/-! ## 4. All lines -/

section Readings

variable {process : String} {wanted : List String}

theorem stateAfter?_append {s s' : ReportState} : ∀ {front : List (List Char)}
    (rest : List (List Char)), stateAfter? process wanted s front = some s' →
      stateAfter? process wanted s (front ++ rest) = stateAfter? process wanted s' rest
  | [], rest, h => by
    cases h
    rfl
  | line :: front, rest, h => by
    rw [stateAfter?] at h
    rw [List.cons_append, stateAfter?]
    split at h
    · exact stateAfter?_append rest h
    · cases h

/-- **The step rule.**  What holds of no lines and the first state, and is kept by each line that
is well formed, holds of the lines read and the state after them. -/
theorem stateAfter?_induct {P : List (List Char) → ReportState → Prop} (hnil : P [] {})
    (hstep : ∀ ls s line s', P ls s → s.step process wanted (ReportLine.read line) = .ok s' →
      P (ls ++ [line]) s')
    {ls : List (List Char)} {s : ReportState} (h : stateAfter? process wanted {} ls = some s) :
    P ls s := by
  suffices hall : ∀ (rest front : List (List Char)) (s₀ s : ReportState), P front s₀ →
      stateAfter? process wanted s₀ rest = some s → P (front ++ rest) s from
    hall ls [] {} s hnil h
  intro rest
  induction rest with
  | nil =>
    intro front s₀ s h₀ h
    cases h
    rw [List.append_nil]
    exact h₀
  | cons line rest ih =>
    intro front s₀ s h₀ h
    unfold stateAfter? at h
    split at h
    · next s₁ hs =>
      rw [List.append_cons]
      exact ih (front ++ [line]) s₁ s (hstep front s₀ line s₁ h₀ hs) h
    · cases h

/-- **The total in the state is the total of the lines.** -/
theorem stateAfter?_total {ls : List (List Char)} {s : ReportState}
    (h : stateAfter? process wanted {} ls = some s) : TotalOf ls s.total :=
  stateAfter?_induct (P := fun ls s => TotalOf ls s.total) (.zero (noHeader_nil _))
    (fun _ _ _ _ => step_total) h

/-- Lines are all well formed, or one of them is the first that stops the reading. -/
theorem stateAfter?_cases : ∀ (ls : List (List Char)) (s : ReportState),
    (∃ s', stateAfter? process wanted s ls = some s') ∨
    ∃ front line rest s' stop, ls = front ++ line :: rest ∧
      stateAfter? process wanted s front = some s' ∧
      s'.step process wanted (ReportLine.read line) = .error stop
  | [], s => Or.inl ⟨s, rfl⟩
  | line :: rest, s => by
    cases hs : s.step process wanted (ReportLine.read line) with
    | error stop => exact Or.inr ⟨[], line, rest, s, stop, rfl, rfl, hs⟩
    | ok s₁ =>
      have ha : ∀ front, stateAfter? process wanted s (line :: front) =
          stateAfter? process wanted s₁ front := by
        intro front
        rw [stateAfter?, hs]
      rcases stateAfter?_cases rest s₁ with ⟨s', h⟩ | ⟨front, l, tail, s', stop, rfl, h, hstop⟩
      · exact Or.inl ⟨s', (ha rest).trans h⟩
      · exact Or.inr ⟨line :: front, l, tail, s', stop, rfl, (ha front).trans h, hstop⟩

/-- How a reading ends at a line that stops it. -/
def stopped (s : ReportState) (number : Nat) (line : List Char) :
    LineStop → Except ReportOverflow ParsedReport
  | .malformed cause => .ok ⟨s.metrics, some ⟨number, String.ofList line, cause⟩⟩
  | .overflow cause => .error cause

theorem readLines_complete {s s' : ReportState} {before : Nat} {ls : List (List Char)}
    (h : stateAfter? process wanted s ls = some s') :
    readLines process wanted s before ls = .ok ⟨s'.metrics, none⟩ := by
  have hr : readLines process wanted s before (ls ++ []) = _ := readLines_append [] h
  rw [List.append_nil] at hr
  exact hr

theorem readLines_stop {s s' : ReportState} {before : Nat} {front rest : List (List Char)}
    {line : List Char} {stop : LineStop} (h : stateAfter? process wanted s front = some s')
    (hs : s'.step process wanted (ReportLine.read line) = .error stop) :
    readLines process wanted s before (front ++ line :: rest) =
      stopped s' (before + front.length + 1) line stop := by
  rw [readLines_append _ h]
  unfold readLines
  rw [hs]
  cases stop with
  | malformed => rfl
  | overflow => rfl

/-! ## 5. A text -/

/-- **How a text is read:** to its end, or up to the first line that stops the reading. -/
theorem parseReport_cases (text process : String) (wanted : List String) :
    (∃ s, stateAfter? process wanted {} (lines text.toList) = some s ∧
      parseReport text process wanted = .ok ⟨s.metrics, none⟩) ∨
    ∃ front line rest s stop, lines text.toList = front ++ line :: rest ∧
      stateAfter? process wanted {} front = some s ∧
      s.step process wanted (ReportLine.read line) = .error stop ∧
      parseReport text process wanted = stopped s (front.length + 1) line stop := by
  unfold parseReport
  rcases stateAfter?_cases (lines text.toList) {} with
    ⟨s, h⟩ | ⟨front, line, rest, s, stop, he, h, hs⟩
  · exact Or.inl ⟨s, h, readLines_complete h⟩
  · refine Or.inr ⟨front, line, rest, s, stop, he, h, hs, ?_⟩
    rw [he, readLines_stop h hs, Nat.zero_add]

/-- A text that was read to its end is well formed in all lines. -/
theorem stateAfter?_of_complete {text : String} {m : Metrics}
    (h : parseReport text process wanted = .ok ⟨m, none⟩) :
    ∃ s, stateAfter? process wanted {} (lines text.toList) = some s ∧ s.metrics = m := by
  rcases parseReport_cases text process wanted with
    ⟨s, hs, hp⟩ | ⟨front, line, rest, s, stop, -, -, -, hp⟩
  · rw [h] at hp
    cases hp
    exact ⟨s, hs, rfl⟩
  · rw [h] at hp
    cases stop with
    | malformed => cases hp
    | overflow => cases hp

end Readings
end DeviceSampling
