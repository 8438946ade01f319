/-
# The meaning of a report

A report that is read to its end means what its lines write: each total header and each row of a
wanted symbol writes one value under one key, and the last line to write under a key has the say.
What a line writes is said from the lines before it, without any state.

* `Counts`: the lines that write;
* `Writes`, `WritesAt`, `LastWrite`: what a line writes, and the last to write under a key;
* `parseReport_meaning`: **the metrics of a report that was read to its end.**
-/
import DeviceSampling.Proofs.Metrics
import DeviceSampling.Proofs.ReportReading

namespace DeviceSampling

open Text

/-! ## 1. What a line writes -/

/-- Whether the line writes: a total header, or a row of a wanted symbol. -/
def Counts (wanted : List String) (line : List Char) : Prop :=
  (∃ value, Header line "Event count".toList value) ∨
    ∃ percentage, WantedRow wanted line percentage

/-- **What a line writes** after the lines before it: a total its own text under the key of the
event, a row the share of its symbol under the key of event and symbol. -/
inductive Writes (process : String) (wanted : List String) (before : List (List Char))
    (line : List Char) : String → String → Prop
  | total {event value} : Header line "Event count".toList value → EventOf before event →
      Writes process wanted before line (metricKey event process none) (String.ofList (trim value))
  | row {event percentage symbol total x n} : Row line → RowFields line percentage symbol →
      String.ofList symbol ∈ wanted → EventOf before event → TotalOf before total →
      Numeral.readDouble (withoutPercentSign (String.ofList percentage)) = .ok x →
      share x total = .ok n →
      Writes process wanted before line
        (metricKey event process (some (String.ofList symbol))) (toString n)

/-- The line with the index `i` writes the value under the key. -/
def WritesAt (process : String) (wanted : List String) (ls : List (List Char)) (i : Nat)
    (key value : String) : Prop :=
  ∃ line, ls[i]? = some line ∧ Writes process wanted (ls.take i) line key value

/-- The last line that writes under the key writes the value. -/
def LastWrite (process : String) (wanted : List String) (ls : List (List Char))
    (key value : String) : Prop :=
  ∃ i, WritesAt process wanted ls i key value ∧
    ∀ j value', i < j → ¬ WritesAt process wanted ls j key value'

section Lines

variable {process : String} {wanted : List String} {ls : List (List Char)} {line : List Char}

/-- A header of another label than a total's does not count. -/
theorem not_counts_of_header {label value : List Char} (h : Header line label value)
    (hl : label ≠ "Event count".toList) : ¬ Counts wanted line := by
  rintro (⟨value', h'⟩ | ⟨percentage, h'⟩)
  · exact no_header_of_header h hl value' h'
  · exact not_row_of_header h h'.1

/-- Only lines that count write. -/
theorem Writes.counts {key value : String} (h : Writes process wanted ls line key value) :
    Counts wanted line := by
  cases h with
  | total hh => exact Or.inl ⟨_, hh⟩
  | row hrow hf hw => exact Or.inr ⟨_, hrow, _, hf, hw⟩

/-- A line writes one value, under one key. -/
theorem Writes.unique {key key' value value' : String} (h : Writes process wanted ls line key value)
    (h' : Writes process wanted ls line key' value') : key = key' ∧ value = value' := by
  cases h with
  | total hh he =>
    cases h' with
    | total hh' he' =>
      rw [he.unique he', (hh.unique hh').2]
      exact ⟨rfl, rfl⟩
    | row hrow => exact absurd hrow (not_row_of_header hh)
  | row hrow hf hw he ht hx hn =>
    cases h' with
    | total hh => exact absurd hrow (not_row_of_header hh)
    | row hrow' hf' hw' he' ht' hx' hn' =>
      obtain ⟨rfl, rfl⟩ := hf.unique hf'
      rw [hx] at hx'
      cases hx'
      rw [ht.unique ht', hn'] at hn
      cases hn
      rw [he.unique he']
      exact ⟨rfl, rfl⟩

/-! ## 2. One more line -/

theorem writesAt_lt {i : Nat} {key value : String} (h : WritesAt process wanted ls i key value) :
    i < ls.length := by
  obtain ⟨l, hl, -⟩ := h
  exact (List.getElem?_eq_some_iff.1 hl).1

/-- The lines before write what they wrote. -/
theorem writesAt_snoc_of_lt {i : Nat} {key value : String} (hi : i < ls.length) :
    WritesAt process wanted (ls ++ [line]) i key value ↔
      WritesAt process wanted ls i key value := by
  unfold WritesAt
  rw [List.getElem?_append_left hi, List.take_append_of_le_length (Nat.le_of_lt hi)]

/-- The line itself writes what it writes after them. -/
theorem writesAt_snoc_self {key value : String} :
    WritesAt process wanted (ls ++ [line]) ls.length key value ↔
      Writes process wanted ls line key value := by
  unfold WritesAt
  rw [List.getElem?_concat_length, List.take_left]
  constructor
  · rintro ⟨l, hl, h⟩
    cases hl
    exact h
  · intro h
    exact ⟨line, rfl, h⟩

theorem writesAt_snoc_cases {i : Nat} {key value : String}
    (h : WritesAt process wanted (ls ++ [line]) i key value) :
    (i < ls.length ∧ WritesAt process wanted ls i key value) ∨
      (i = ls.length ∧ Writes process wanted ls line key value) := by
  have hi := writesAt_lt h
  rw [List.length_append, List.length_singleton] at hi
  rcases Nat.lt_or_eq_of_le (Nat.le_of_lt_succ hi) with hi | rfl
  · exact Or.inl ⟨hi, (writesAt_snoc_of_lt hi).1 h⟩
  · exact Or.inr ⟨rfl, writesAt_snoc_self.1 h⟩

/-- A line that writes under a key is the last to do so. -/
theorem lastWrite_snoc_self {key value value' : String}
    (hw : Writes process wanted ls line key value) :
    LastWrite process wanted (ls ++ [line]) key value' ↔ value' = value := by
  have hself : WritesAt process wanted (ls ++ [line]) ls.length key value :=
    writesAt_snoc_self.2 hw
  constructor
  · rintro ⟨i, hi, hlast⟩
    rcases writesAt_snoc_cases hi with ⟨hlt, -⟩ | ⟨-, h⟩
    · exact absurd hself (hlast ls.length value hlt)
    · exact (h.unique hw).2
  · rintro rfl
    refine ⟨ls.length, hself, fun j v hj h => ?_⟩
    rcases writesAt_snoc_cases h with ⟨hlt, -⟩ | ⟨rfl, -⟩
    · exact Nat.lt_asymm hj hlt
    · exact Nat.lt_irrefl _ hj

/-- A line that does not write under a key leaves the last to do so. -/
theorem lastWrite_snoc_of_not {key value : String}
    (hno : ∀ v, ¬ Writes process wanted ls line key v) :
    LastWrite process wanted (ls ++ [line]) key value ↔
      LastWrite process wanted ls key value := by
  constructor
  · rintro ⟨i, hi, hlast⟩
    rcases writesAt_snoc_cases hi with ⟨hlt, h⟩ | ⟨-, h⟩
    · refine ⟨i, h, fun j v hj hjv => hlast j v hj ?_⟩
      exact (writesAt_snoc_of_lt (writesAt_lt hjv)).2 hjv
    · exact absurd h (hno value)
  · rintro ⟨i, hi, hlast⟩
    refine ⟨i, (writesAt_snoc_of_lt (writesAt_lt hi)).2 hi, fun j v hj hjv => ?_⟩
    rcases writesAt_snoc_cases hjv with ⟨-, h⟩ | ⟨-, h⟩
    · exact hlast j v hj h
    · exact hno v h

/-- If a line writes under a key, some line is the last to do so. -/
theorem exists_lastWrite {i : Nat} {key value : String}
    (h : WritesAt process wanted ls i key value) : ∃ v, LastWrite process wanted ls key v := by
  by_cases hl : ∃ j v, i < j ∧ WritesAt process wanted ls j key v
  · obtain ⟨j, v, hj, hw⟩ := hl
    have hlt := writesAt_lt hw
    exact exists_lastWrite hw
  · exact ⟨value, i, h, fun j v hj hw => hl ⟨j, v, hj, hw⟩⟩
termination_by ls.length - i
decreasing_by omega

end Lines

/-! ## 3. The state of the reading -/

/-- **What the state says of the lines read.** -/
structure Describes (process : String) (wanted : List String) (ls : List (List Char))
    (s : ReportState) : Prop where
  event : EventOf ls s.event
  total : TotalOf ls s.total
  nodup : s.metrics.keys.Nodup
  values : ∀ key value, s.metrics.get? key = some value ↔ LastWrite process wanted ls key value
  counted : ∀ i line, ls[i]? = some line → Counts wanted line →
    ∃ key value, WritesAt process wanted ls i key value

section Steps

variable {process : String} {wanted : List String} {ls : List (List Char)} {line : List Char}
variable {s s' : ReportState}

/-- **A line puts into the metrics what it writes,** and a line that does not count nothing. -/
theorem step_writes (he : EventOf ls s.event) (ht : TotalOf ls s.total)
    (hs : s.step process wanted (ReportLine.read line) = .ok s') :
    (∃ key value, Writes process wanted ls line key value ∧
        s'.metrics = s.metrics.insert key value) ∨
      (¬ Counts wanted line ∧ s'.metrics = s.metrics) := by
  have hp := step_passes hs
  have hr := read_readsAs line
  generalize ReportLine.read line = read at hr hp
  cases hr with
  | event hh =>
    cases hp
    exact Or.inr ⟨not_counts_of_header hh (by decide), rfl⟩
  | total hh =>
    cases hp
    exact Or.inl ⟨_, _, .total hh he, rfl⟩
  | otherHeader hh hne hne' =>
    cases hp
    exact Or.inr ⟨not_counts_of_header hh hne', rfl⟩
  | row hrow hf =>
    cases hp with
    | row hw hx hn => exact Or.inl ⟨_, _, .row hrow hf hw he ht hx hn, rfl⟩
    | unwanted hw =>
      refine Or.inr ⟨?_, rfl⟩
      rintro (⟨value, h⟩ | ⟨percentage, h⟩)
      · exact not_row_of_header h hrow
      · exact not_wantedRow hf hw percentage h
  | shortRow => cases hp
  | plain hno hp' =>
    cases hp
    refine Or.inr ⟨?_, rfl⟩
    rintro (⟨value, h⟩ | ⟨percentage, h⟩)
    · exact no_header_of_no_separator hno _ value h
    · exact hp' h.1.2

/-- Nothing is written by no lines. -/
theorem describes_nil : Describes process wanted [] {} where
  event := .unnamed (noHeader_nil _)
  total := .zero (noHeader_nil _)
  nodup := List.nodup_nil
  values key value := by
    constructor
    · intro h
      cases h
    · rintro ⟨i, h, -⟩
      exact absurd (writesAt_lt h) (Nat.not_lt_zero i)
  counted i line h := by
    cases h

/-- The step: a well-formed line takes a state that describes the lines before it to one that
describes them and the line. -/
theorem describes_step (h : Describes process wanted ls s)
    (hs : s.step process wanted (ReportLine.read line) = .ok s') :
    Describes process wanted (ls ++ [line]) s' := by
  have hstep := step_writes h.event h.total hs
  refine ⟨step_event h.event hs, step_total h.total hs, ?_, ?_, ?_⟩
  · rcases hstep with ⟨key, value, -, hm⟩ | ⟨-, hm⟩
    · rw [hm]
      exact Metrics.nodup_keys_insert h.nodup key value
    · rw [hm]
      exact h.nodup
  · intro key value
    rcases hstep with ⟨key', value', hw, hm⟩ | ⟨hno, hm⟩
    · rw [hm, Metrics.get?_insert]
      by_cases hk : key = key'
      · subst hk
        rw [if_pos rfl, lastWrite_snoc_self hw, Option.some.injEq]
        exact eq_comm
      · rw [if_neg hk, h.values, lastWrite_snoc_of_not fun v hv => hk (hv.unique hw).1]
    · rw [hm, h.values, lastWrite_snoc_of_not fun v hv => hno hv.counts]
  · intro i l hl hc
    have hi : i < ls.length + 1 := by
      have := (List.getElem?_eq_some_iff.1 hl).1
      rwa [List.length_append, List.length_singleton] at this
    rcases Nat.lt_or_eq_of_le (Nat.le_of_lt_succ hi) with hi | rfl
    · rw [List.getElem?_append_left hi] at hl
      obtain ⟨key, value, hw⟩ := h.counted i l hl hc
      exact ⟨key, value, (writesAt_snoc_of_lt hi).2 hw⟩
    · rw [List.getElem?_concat_length] at hl
      cases hl
      rcases hstep with ⟨key, value, hw, -⟩ | ⟨hno, -⟩
      · exact ⟨key, value, writesAt_snoc_self.2 hw⟩
      · exact absurd hc hno

/-- **The state after some lines describes them.** -/
theorem stateAfter?_describes (h : stateAfter? process wanted {} ls = some s) :
    Describes process wanted ls s :=
  stateAfter?_induct describes_nil (fun _ _ _ _ => describes_step) h

end Steps

/-! ## 4. The metrics of a report -/

/-- No key comes twice, also if the reading ended early. -/
theorem nodup_keys_of_parseReport {text process : String} {wanted : List String}
    {parsed : ParsedReport} (h : parseReport text process wanted = .ok parsed) :
    parsed.metrics.keys.Nodup := by
  rcases parseReport_cases text process wanted with
    ⟨s, hs, hp⟩ | ⟨front, line, rest, s, stop, -, hs, -, hp⟩
  · rw [h] at hp
    cases hp
    exact (stateAfter?_describes hs).nodup
  · rw [h] at hp
    cases stop with
    | malformed =>
      cases hp
      exact (stateAfter?_describes hs).nodup
    | overflow => cases hp

/-- **The meaning of a report.**  If a text is read to its end, the keys of its metrics are those
under which some line writes, and the value of a key is what the last such line writes.  Each total
header and each row of a wanted symbol is such a line. -/
theorem parseReport_meaning {text process : String} {wanted : List String} {parsed : ParsedReport}
    (h : parseReport text process wanted = .ok parsed) (hc : parsed.complete = true) :
    parsed.metrics.keys.Nodup ∧
    (∀ key, key ∈ parsed.metrics.keys ↔
      ∃ i value, WritesAt process wanted (lines text.toList) i key value) ∧
    (∀ key value, parsed.metrics.get? key = some value ↔
      LastWrite process wanted (lines text.toList) key value) ∧
    (∀ i line, (lines text.toList)[i]? = some line →
      (Counts wanted line ↔
        ∃ key value, WritesAt process wanted (lines text.toList) i key value)) := by
  obtain ⟨m, fault⟩ := parsed
  obtain rfl : fault = none := Option.isNone_iff_eq_none.1 hc
  obtain ⟨s, hs, rfl⟩ := stateAfter?_of_complete h
  have hd := stateAfter?_describes hs
  refine ⟨hd.nodup, ?_, hd.values, ?_⟩
  · intro key
    rw [Metrics.mem_keys_iff]
    constructor
    · rintro ⟨value, hv⟩
      obtain ⟨i, hi, -⟩ := (hd.values key value).1 hv
      exact ⟨i, value, hi⟩
    · rintro ⟨i, value, hi⟩
      obtain ⟨v, hv⟩ := exists_lastWrite hi
      exact ⟨v, (hd.values key v).2 hv⟩
  · intro i line hl
    constructor
    · exact hd.counted i line hl
    · rintro ⟨key, value, l, hl', hw⟩
      rw [hl] at hl'
      cases hl'
      exact hw.counts

/-- One event with two totals, each with a row of one symbol after it. -/
def repeatedTotal : String :=
  "Event: cycles (type 0)\nEvent count: 200\n50.00%  12  foo()\n" ++
    "Event count: 300\n10.00%  12  foo()\n 7.00%  12  bar()\n"

/-- Under both keys the later of the two lines has the say. -/
theorem parseReport_meaning_repeatedTotal :
    ∃ parsed, parseReport repeatedTotal "sf" ["foo()"] = .ok parsed ∧ parsed.complete = true ∧
      LastWrite "sf" ["foo()"] (lines repeatedTotal.toList) "cycles-sf" "300" ∧
      LastWrite "sf" ["foo()"] (lines repeatedTotal.toList) "cycles-sf-foo()" "30" := by
  have h : parseReport repeatedTotal "sf" ["foo()"] =
      .ok ⟨⟨[("cycles-sf", "300"), ("cycles-sf-foo()", "30")]⟩, none⟩ := by decide +kernel
  obtain ⟨-, -, hvalues, -⟩ := parseReport_meaning h rfl
  exact ⟨_, h, rfl, (hvalues _ _).1 (by decide), (hvalues _ _).1 (by decide)⟩

end DeviceSampling
