/-
# Reports one after the other

A reading carries the event and the total from line to line, so a report can lend them to the one
that stands after it.  A report that asks for neither is self-contained: it names an event before
its first total, and gives a total before its first row of a wanted symbol.  It reads behind any
other report as it reads alone, and its metrics are written over those of the other.

* `SelfContained`: reports that ask for nothing;
* `Continues`: what the reading of a report alone and behind another have in common;
* `step_continues`, `readLines_continues`: **a self-contained report never reads what it inherits;**
* `parseReport_blocks`: **reports one after the other have the union of their metrics,** and the
  order of self-contained ones without a common key does not matter.
-/
import DeviceSampling.Proofs.Metrics
import DeviceSampling.Proofs.ReportGrammar
import DeviceSampling.Proofs.ReportMeaning

namespace DeviceSampling

open Text

/-! ## 1. Reports that ask for nothing -/

/-- Some line is a header of the label. -/
def HasHeader (label : List Char) (ls : List (List Char)) : Prop :=
  ∃ line ∈ ls, ∃ value, Header line label value

/-- **A self-contained report:** an event header stands before each total header, and a total header
before each row of a wanted symbol. -/
structure SelfContained (wanted : List String) (ls : List (List Char)) : Prop where
  total : ∀ i line value, ls[i]? = some line → Header line "Event count".toList value →
    HasHeader "Event".toList (ls.take i)
  row : ∀ i line percentage, ls[i]? = some line → WantedRow wanted line percentage →
    HasHeader "Event count".toList (ls.take i)

theorem HasHeader.snoc {label line : List Char} {ls : List (List Char)} (h : HasHeader label ls) :
    HasHeader label (ls ++ [line]) := by
  obtain ⟨l, hl, value, hh⟩ := h
  exact ⟨l, List.mem_append_left _ hl, value, hh⟩

/-- A line that is no header of the label adds none. -/
theorem HasHeader.of_snoc {label line : List Char} {ls : List (List Char)}
    (h : HasHeader label (ls ++ [line])) (hno : ∀ value, ¬ Header line label value) :
    HasHeader label ls := by
  obtain ⟨l, hl, value, hh⟩ := h
  rcases List.mem_append.1 hl with hl | hl
  · exact ⟨l, hl, value, hh⟩
  · rw [List.mem_singleton.1 hl] at hh
    exact absurd hh (hno value)

/-! Whether a report is self-contained can be decided from what its lines are read as. -/

namespace ReportLine

/-- Whether the line names an event. -/
def isEvent : ReportLine → Bool
  | .event _ => true
  | _ => false

/-- Whether the line gives a total. -/
def isTotal : ReportLine → Bool
  | .total _ => true
  | _ => false

/-- Whether the line is a row of one of the symbols. -/
def isRowOf (wanted : List String) : ReportLine → Bool
  | .row _ symbol => wanted.contains symbol
  | _ => false

theorem isEvent_read_iff {line : List Char} :
    (read line).isEvent = true ↔ ∃ value, Header line "Event".toList value := by
  constructor
  · intro h
    have hr := read_readsAs line
    generalize read line = what at hr h
    cases hr with
    | event hh => exact ⟨_, hh⟩
    | _ => cases h
  · rintro ⟨value, hh⟩
    rw [(ReadsAs.event hh).read_eq]
    rfl

theorem isTotal_read_iff {line : List Char} :
    (read line).isTotal = true ↔ ∃ value, Header line "Event count".toList value := by
  constructor
  · intro h
    have hr := read_readsAs line
    generalize read line = what at hr h
    cases hr with
    | total hh => exact ⟨_, hh⟩
    | _ => cases h
  · rintro ⟨value, hh⟩
    rw [(ReadsAs.total hh).read_eq]
    rfl

theorem isRowOf_read_iff {wanted : List String} {line : List Char} :
    (read line).isRowOf wanted = true ↔ ∃ percentage, WantedRow wanted line percentage := by
  constructor
  · intro h
    have hr := read_readsAs line
    generalize read line = what at hr h
    cases hr with
    | row hrow hf => exact ⟨_, hrow, _, hf, List.contains_iff_mem.1 h⟩
    | _ => cases h
  · rintro ⟨percentage, hrow, symbol, hf, hw⟩
    rw [(ReadsAs.row hrow hf).read_eq]
    exact List.contains_iff_mem.2 hw

end ReportLine

theorem hasHeader_event_iff {ls : List (List Char)} :
    HasHeader "Event".toList ls ↔ ∃ line ∈ ls, (ReportLine.read line).isEvent = true := by
  simp only [HasHeader, ReportLine.isEvent_read_iff]

theorem hasHeader_total_iff {ls : List (List Char)} :
    HasHeader "Event count".toList ls ↔ ∃ line ∈ ls, (ReportLine.read line).isTotal = true := by
  simp only [HasHeader, ReportLine.isTotal_read_iff]

theorem selfContained_iff {wanted : List String} {ls : List (List Char)} :
    SelfContained wanted ls ↔ ∀ i ∈ List.range ls.length, ∀ line ∈ ls[i]?,
      ((ReportLine.read line).isTotal = true →
        ∃ l ∈ ls.take i, (ReportLine.read l).isEvent = true) ∧
      ((ReportLine.read line).isRowOf wanted = true →
        ∃ l ∈ ls.take i, (ReportLine.read l).isTotal = true) := by
  constructor
  · rintro ⟨htotal, hrow⟩ i - line hl
    rw [ReportLine.isTotal_read_iff, ReportLine.isRowOf_read_iff, ← hasHeader_event_iff,
      ← hasHeader_total_iff]
    exact ⟨fun ⟨value, hh⟩ => htotal i line value hl hh,
      fun ⟨percentage, hw⟩ => hrow i line percentage hl hw⟩
  · intro h
    have hall : ∀ i line, ls[i]? = some line → _ := fun i line hl =>
      h i (List.mem_range.2 (List.getElem?_eq_some_iff.1 hl).1) line hl
    exact ⟨fun i line value hl hh =>
        hasHeader_event_iff.2 ((hall i line hl).1 (ReportLine.isTotal_read_iff.2 ⟨value, hh⟩)),
      fun i line percentage hl hw =>
        hasHeader_total_iff.2 ((hall i line hl).2 (ReportLine.isRowOf_read_iff.2 ⟨percentage, hw⟩))⟩

instance (wanted : List String) (ls : List (List Char)) : Decidable (SelfContained wanted ls) :=
  decidable_of_iff' _ selfContained_iff

section Readings

variable {process : String} {wanted : List String} {inherited : Metrics}
variable {front : List (List Char)} {line : List Char} {s s' : ReportState}

/-! ## 2. A reading alone and behind another -/

/-- **What two readings of the same lines have in common,** one from the start and one behind a
report with the metrics `inherited`: the event from the first event header on, event and total from
the first total header on, and the metrics but for those inherited. -/
structure Continues (inherited : Metrics) (front : List (List Char)) (s s' : ReportState) :
    Prop where
  event : HasHeader "Event".toList front → s'.event = s.event
  figures : HasHeader "Event count".toList front → s'.event = s.event ∧ s'.total = s.total
  metrics : s'.metrics = inherited.merge s.metrics
  nodup : s.metrics.keys.Nodup

/-- At the start of a report nothing is in common but the metrics. -/
theorem continues_nil (s' : ReportState) : Continues s'.metrics [] {} s' where
  event := fun ⟨_, hl, _⟩ => absurd hl List.not_mem_nil
  figures := fun ⟨_, hl, _⟩ => absurd hl List.not_mem_nil
  metrics := rfl
  nodup := List.nodup_nil

/-- A line that is no header and writes nothing leaves all in common. -/
theorem Continues.snoc (h : Continues inherited front s s')
    (hevent : ∀ value, ¬ Header line "Event".toList value)
    (htotal : ∀ value, ¬ Header line "Event count".toList value) :
    Continues inherited (front ++ [line]) s s' where
  event := fun hh => h.event (hh.of_snoc hevent)
  figures := fun hh => h.figures (hh.of_snoc htotal)
  metrics := h.metrics
  nodup := h.nodup

/-- Both readings write the same. -/
theorem Continues.insert (h : Continues inherited front s s') (key value : String) :
    Continues inherited front { s with metrics := s.metrics.insert key value }
      { s' with metrics := s'.metrics.insert key value } where
  event := h.event
  figures := h.figures
  metrics := by rw [h.metrics, Metrics.merge_insert h.nodup]
  nodup := Metrics.nodup_keys_insert h.nodup key value

/-- Both readings take on the named event. -/
theorem Continues.named (h : Continues inherited front s s') {value : List Char}
    (hh : Header line "Event".toList value) (name : String) :
    Continues inherited (front ++ [line]) { s with event := name } { s' with event := name } where
  event := fun _ => rfl
  figures := fun hf => ⟨rfl, (h.figures (hf.of_snoc (no_header_of_header hh (by decide)))).2⟩
  metrics := h.metrics
  nodup := h.nodup

/-- Both readings take on the total of the event. -/
theorem Continues.counted (h : Continues inherited front s s') (he : s'.event = s.event)
    {value : List Char} (hh : Header line "Event count".toList value) (n : Int) :
    Continues inherited (front ++ [line]) { s with total := n } { s' with total := n } where
  event := fun hf => h.event (hf.of_snoc (no_header_of_header hh (by decide)))
  figures := fun _ => ⟨he, rfl⟩
  metrics := h.metrics
  nodup := h.nodup

/-- **The step:** a line that asks for nothing is read alike, and leaves the two readings with as
much in common. -/
theorem step_continues (process : String) (h : Continues inherited front s s')
    (htotal : ∀ value, Header line "Event count".toList value → HasHeader "Event".toList front)
    (hrow : ∀ percentage, WantedRow wanted line percentage →
      HasHeader "Event count".toList front) :
    (∃ stop, s.step process wanted (ReportLine.read line) = .error stop ∧
      s'.step process wanted (ReportLine.read line) = .error stop) ∨
    ∃ t t', s.step process wanted (ReportLine.read line) = .ok t ∧
      s'.step process wanted (ReportLine.read line) = .ok t' ∧
      Continues inherited (front ++ [line]) t t' := by
  have hr := read_readsAs line
  generalize ReportLine.read line = read at hr
  cases hr with
  | event hh => exact Or.inr ⟨_, _, rfl, rfl, h.named hh _⟩
  | @total value hh =>
    have he := h.event (htotal value hh)
    have hkey : metricKey s'.event process none = metricKey s.event process none := by rw [he]
    simp only [ReportState.step]
    rw [hkey]
    cases Numeral.readInteger (String.ofList (trim value)) with
    | error fault => exact Or.inl ⟨_, rfl, rfl⟩
    | ok n => exact Or.inr ⟨_, _, rfl, rfl, (h.insert _ _).counted he hh n⟩
  | otherHeader hh hne hne' =>
    exact Or.inr ⟨s, s', rfl, rfl,
      h.snoc (no_header_of_header hh hne) (no_header_of_header hh hne')⟩
  | @row percentage symbol hrow' hf =>
    have hno := no_header_of_no_separator hrow'.1
    simp only [ReportState.step]
    by_cases hw : wanted.contains (String.ofList symbol) = true
    · -- the total and the event of a wanted row are those of the report itself
      obtain ⟨he, ht⟩ :=
        h.figures (hrow percentage ⟨hrow', symbol, hf, List.contains_iff_mem.1 hw⟩)
      have hkey : metricKey s'.event process (some (String.ofList symbol)) =
          metricKey s.event process (some (String.ofList symbol)) := by rw [he]
      have hshare : rowShare (String.ofList percentage) s'.total =
          rowShare (String.ofList percentage) s.total := by rw [ht]
      rw [if_pos hw, if_pos hw, hkey, hshare]
      cases rowShare (String.ofList percentage) s.total with
      | error stop => exact Or.inl ⟨stop, rfl, rfl⟩
      | ok n => exact Or.inr ⟨_, _, rfl, rfl, (h.insert _ _).snoc (hno _) (hno _)⟩
    · rw [if_neg hw, if_neg hw]
      exact Or.inr ⟨s, s', rfl, rfl, h.snoc (hno _) (hno _)⟩
  | shortRow => exact Or.inl ⟨_, rfl, rfl⟩
  | plain hno =>
    have hno := no_header_of_no_separator hno
    exact Or.inr ⟨s, s', rfl, rfl, h.snoc (hno _) (hno _)⟩

/-- A reading behind another: the metrics are written over those inherited, and the lines of the
other count. -/
def ParsedReport.behind (inherited : Metrics) (lines : Nat) (p : ParsedReport) : ParsedReport where
  metrics := inherited.merge p.metrics
  fault := p.fault.map fun fault => { fault with number := lines + fault.number }

/-- **The run:** a self-contained report is read behind another as it is read alone. -/
theorem readLines_continues (process : String) (skipped : Nat) :
    ∀ (rest front : List (List Char)) (s s' : ReportState) (before : Nat),
      SelfContained wanted (front ++ rest) → Continues inherited front s s' →
      readLines process wanted s' (skipped + before) rest =
        (readLines process wanted s before rest).map (ParsedReport.behind inherited skipped)
  | [], front, s, s', before, _, h => by
    show Except.ok (ParsedReport.mk s'.metrics none) = _
    rw [h.metrics]
    rfl
  | line :: rest, front, s, s', before, hself, h => by
    have hline : (front ++ line :: rest)[front.length]? = some line := by simp
    have htake : (front ++ line :: rest).take front.length = front := List.take_left
    have htotal := fun value => htake ▸ hself.total front.length line value hline
    have hrow := fun percentage => htake ▸ hself.row front.length line percentage hline
    unfold readLines
    rcases step_continues process h htotal hrow with ⟨stop, hs, hs'⟩ | ⟨t, t', hs, hs', ht⟩
    · rw [hs, hs']
      cases stop with
      | overflow cause => rfl
      | malformed cause =>
        dsimp only
        rw [h.metrics, Nat.add_assoc]
        rfl
    · rw [hs, hs']
      rw [List.append_cons] at hself
      exact readLines_continues process skipped rest (front ++ [line]) t t' (before + 1) hself ht

end Readings

/-! ## 3. Texts -/

/-- The text of some lines, each ended by a line feed. -/
def textOf (ls : List (List Char)) : String := String.ofList (unlines ls)

theorem textOf_append (ls rest : List (List Char)) :
    textOf (ls ++ rest) = textOf ls ++ textOf rest := by
  unfold textOf unlines
  rw [List.flatMap_append, String.ofList_append]

section Texts

variable {process : String} {wanted : List String} {ls rest : List (List Char)}

theorem parseReport_textOf (process : String) (wanted : List String)
    (h : ∀ l ∈ ls, OneLine l) :
    parseReport (textOf ls) process wanted = readLines process wanted {} 0 ls := by
  unfold parseReport textOf
  rw [String.toList_ofList, lines_unlines ls h]

/-- **A self-contained report behind one that was read to its end.** -/
theorem parseReport_textOf_append (hls : ∀ l ∈ ls, OneLine l) (hrest : ∀ l ∈ rest, OneLine l)
    {m : Metrics} (hm : parseReport (textOf ls) process wanted = .ok ⟨m, none⟩)
    (hself : SelfContained wanted rest) :
    parseReport (textOf ls ++ textOf rest) process wanted =
      (parseReport (textOf rest) process wanted).map (ParsedReport.behind m ls.length) := by
  have hall : ∀ l ∈ ls ++ rest, OneLine l := fun l hl =>
    (List.mem_append.1 hl).elim (hls l) (hrest l)
  obtain ⟨s', hs', rfl⟩ := stateAfter?_of_complete hm
  rw [textOf, String.toList_ofList, lines_unlines ls hls] at hs'
  rw [← textOf_append, parseReport_textOf process wanted hall,
    parseReport_textOf process wanted hrest, readLines_append rest hs', Nat.zero_add]
  exact readLines_continues process ls.length rest [] {} s' 0 hself (continues_nil s')

end Texts

/-! ## 4. Blocks -/

/-- **A block:** a self-contained report that is read to its end. -/
structure ReportBlock (process : String) (wanted : List String) where
  lines : List (List Char)
  oneLine : ∀ l ∈ lines, OneLine l
  selfContained : SelfContained wanted lines
  metrics : Metrics
  reads : parseReport (textOf lines) process wanted = .ok ⟨metrics, none⟩

section Blocks

variable {process : String} {wanted : List String}

/-- The text of blocks, one after the other. -/
def textOfBlocks (blocks : List (ReportBlock process wanted)) : String :=
  textOf (blocks.flatMap ReportBlock.lines)

/-- The blocks have no key in common. -/
def KeysApart (blocks : List (ReportBlock process wanted)) : Prop :=
  blocks.Pairwise fun b b' => List.Disjoint b.metrics.keys b'.metrics.keys

/-- **Blocks one after the other have the union of their metrics.** -/
theorem parseReport_textOfBlocks (blocks : List (ReportBlock process wanted)) :
    parseReport (textOfBlocks blocks) process wanted =
      .ok ⟨Metrics.unionAll (blocks.map ReportBlock.metrics), none⟩ := by
  -- the last block stands behind the text of all others
  induction blocks using List.reverseRecOn with
  | nil => rfl
  | append_singleton blocks b ih =>
    have hone : ∀ l ∈ blocks.flatMap ReportBlock.lines, OneLine l := by
      intro l hl
      obtain ⟨b', -, hl⟩ := List.mem_flatMap.1 hl
      exact b'.oneLine l hl
    have htext : textOfBlocks (blocks ++ [b]) = textOfBlocks blocks ++ textOf b.lines := by
      unfold textOfBlocks
      rw [List.flatMap_append, textOf_append, List.flatMap_singleton]
    rw [htext, textOfBlocks, parseReport_textOf_append hone b.oneLine ih b.selfContained, b.reads,
      List.map_append, Metrics.unionAll, Metrics.unionAll, List.foldl_append]
    rfl

theorem nodup_keys_of_mem_blocks {blocks : List (ReportBlock process wanted)} :
    ∀ m ∈ blocks.map ReportBlock.metrics, m.keys.Nodup := by
  intro m hm
  obtain ⟨b, -, rfl⟩ := List.mem_map.1 hm
  exact nodup_keys_of_parseReport b.reads

/-- The metrics of blocks without a common key are those of each block. -/
theorem KeysApart.entries_unionAll {blocks : List (ReportBlock process wanted)}
    (h : KeysApart blocks) : (Metrics.unionAll (blocks.map ReportBlock.metrics)).entries =
      blocks.flatMap (·.metrics.entries) := by
  rw [Metrics.unionAll_of_disjoint nodup_keys_of_mem_blocks (List.pairwise_map.2 h),
    List.flatMap_map]

theorem KeysApart.perm {blocks blocks' : List (ReportBlock process wanted)} (h : KeysApart blocks)
    (hp : blocks.Perm blocks') : KeysApart blocks' :=
  (hp.pairwise_iff fun hd => List.disjoint_symm hd).1 h

end Blocks

/-- **Reports one after the other.**  Behind a report that is read to its end, a self-contained one
is read as it is alone: its outcome is the same, with the number of a malformed line counted on, and
its metrics are written over those of the first.  So self-contained reports that are read to their
end and have no key in common give the same metrics in any order. -/
theorem parseReport_blocks (process : String) (wanted : List String) :
    (∀ (ls rest : List (List Char)) (m : Metrics), (∀ l ∈ ls, OneLine l) → (∀ l ∈ rest, OneLine l) →
      parseReport (textOf ls) process wanted = .ok ⟨m, none⟩ → SelfContained wanted rest →
      parseReport (textOf ls ++ textOf rest) process wanted =
        (parseReport (textOf rest) process wanted).map fun p =>
          ⟨m.merge p.metrics,
            p.fault.map fun fault => { fault with number := ls.length + fault.number }⟩) ∧
    (∀ blocks blocks' : List (ReportBlock process wanted), blocks.Perm blocks' → KeysApart blocks →
      ∃ m m' : Metrics,
        parseReport (textOfBlocks blocks) process wanted = .ok ⟨m, none⟩ ∧
        parseReport (textOfBlocks blocks') process wanted = .ok ⟨m', none⟩ ∧
        m.entries = blocks.flatMap (·.metrics.entries) ∧ m.entries.Perm m'.entries ∧
        ∀ key, m.get? key = m'.get? key) := by
  constructor
  · exact fun ls rest m hls hrest hm hself => parseReport_textOf_append hls hrest hm hself
  · intro blocks blocks' hp hapart
    have hentries := hapart.entries_unionAll
    have hperm : (Metrics.unionAll (blocks.map ReportBlock.metrics)).entries.Perm
        (Metrics.unionAll (blocks'.map ReportBlock.metrics)).entries := by
      rw [hentries, (hapart.perm hp).entries_unionAll]
      exact hp.flatMap_right _
    exact ⟨_, _, parseReport_textOfBlocks blocks, parseReport_textOfBlocks blocks', hentries, hperm,
      Metrics.get?_of_perm (Metrics.nodup_keys_unionAll _) hperm⟩

/-- The lines of a report of one event. -/
def eventLines (event total row : String) : List (List Char) :=
  [("Event: " ++ event).toList, ("Event count: " ++ total).toList, row.toList]

/-- A block of one event. -/
def cyclesBlock : ReportBlock "sf" ["foo()"] where
  lines := eventLines "cycles" "200" "50.00%  12  foo()"
  oneLine := by decide +kernel
  selfContained := by decide +kernel
  metrics := ⟨[("cycles-sf", "200"), ("cycles-sf-foo()", "100")]⟩
  reads := by decide +kernel

/-- A block of another event. -/
def faultsBlock : ReportBlock "sf" ["foo()"] where
  lines := eventLines "faults" "8" "25.00%  12  foo()"
  oneLine := by decide +kernel
  selfContained := by decide +kernel
  metrics := ⟨[("faults-sf", "8"), ("faults-sf-foo()", "2")]⟩
  reads := by decide +kernel

/-- Behind a block a second report of its event ends at its fourth line, the seventh of both, with
the total and the share overwritten; and two blocks can change places. -/
theorem parseReport_blocks_cyclesBlock :
    (let broken := eventLines "cycles" "300" "10.00%  12  foo()" ++ ["Event count: many".toList]
    SelfContained ["foo()"] broken ∧
      ∃ m fault fault',
        parseReport (textOf broken) "sf" ["foo()"] = .ok ⟨m, some fault⟩ ∧ fault.number = 4 ∧
        parseReport (textOf cyclesBlock.lines ++ textOf broken) "sf" ["foo()"] =
          .ok ⟨cyclesBlock.metrics.merge m, some fault'⟩ ∧ fault'.number = 7 ∧
        (cyclesBlock.metrics.merge m).entries =
          [("cycles-sf", "300"), ("cycles-sf-foo()", "30")]) ∧
    KeysApart [cyclesBlock, faultsBlock] ∧
    ∃ m m' : Metrics,
      parseReport (textOfBlocks [cyclesBlock, faultsBlock]) "sf" ["foo()"] = .ok ⟨m, none⟩ ∧
      parseReport (textOfBlocks [faultsBlock, cyclesBlock]) "sf" ["foo()"] = .ok ⟨m', none⟩ ∧
      ∀ key, m.get? key = m'.get? key := by
  obtain ⟨happend, hperm⟩ := parseReport_blocks "sf" ["foo()"]
  have hapart : KeysApart [cyclesBlock, faultsBlock] :=
    List.pairwise_pair.2 (List.disjoint_left.2 (by decide))
  obtain ⟨m, m', hm, hm', -, -, hget⟩ :=
    hperm [cyclesBlock, faultsBlock] [faultsBlock, cyclesBlock] (List.Perm.swap _ _ _) hapart
  refine ⟨?_, hapart, m, m', hm, hm', hget⟩
  intro broken
  have hself : SelfContained ["foo()"] broken := by decide +kernel
  have hbroken : parseReport (textOf broken) "sf" ["foo()"] =
      .ok ⟨⟨[("cycles-sf", "300"), ("cycles-sf-foo()", "30")]⟩,
        some ⟨4, "Event count: many", .total (.malformed 10 "many")⟩⟩ := by
    decide +kernel
  have hall := happend cyclesBlock.lines broken cyclesBlock.metrics cyclesBlock.oneLine
    (by decide +kernel) cyclesBlock.reads hself
  rw [hbroken] at hall
  exact ⟨hself, _, _, _, hbroken, rfl, hall, rfl, rfl⟩

end DeviceSampling
