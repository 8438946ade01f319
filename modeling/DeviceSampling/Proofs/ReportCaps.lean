/-
# Shares and totals in the metrics

A share is capped by the total that is in force at its row, which is the last one given, of whatever
event.  In the metrics it stands beside the last total of its own event.  The two are the same if no
row comes between the header of an event and its total, and the share keeps below the total if the
totals of an event do not fall.

* `TotalAt`: the totals that are given, each with its event;
* `Headed`: rows after the total of their own event; `Headed.exists_totalAt`;
* `Settled`, `Unambiguous`: reports whose shares keep to their totals, and their keys apart;
* `parseReport_capped`: **what caps the shares in the metrics;**
* `parseReport_uncapped`: shares that pass the totals beside them.
-/
import DeviceSampling.Proofs.MetricKeys
import DeviceSampling.Proofs.ReportRange

namespace DeviceSampling

open Text

variable {process : String} {wanted : List String} {ls before : List (List Char)}
variable {line : List Char} {event : String}

/-! ## 1. The total of an event -/

/-- **The line with the index `i` gives a total,** which is the event's. -/
def TotalAt (ls : List (List Char)) (i : Nat) (event : String) (total : Int) : Prop :=
  ∃ line value, ls[i]? = some line ∧ Header line "Event count".toList value ∧
    Numeral.readInteger (String.ofList (trim value)) = .ok total ∧ EventOf (ls.take i) event

/-- **Lines that end with the figures of an event,** its total among them: after the total no other
event starts. -/
def Headed (ls : List (List Char)) : Prop :=
  ∃ front line rest value, ls = front ++ line :: rest ∧ Header line "Event count".toList value ∧
    NoHeader "Event".toList rest

theorem exists_eventOf (ls : List (List Char)) : ∃ event, EventOf ls event := by
  induction ls using List.reverseRecOn with
  | nil => exact ⟨"", .unnamed (noHeader_nil _)⟩
  | append_singleton ls line ih =>
    by_cases h : ∃ value, Header line "Event".toList value
    · obtain ⟨value, hh⟩ := h
      exact ⟨_, .named (lastHeader_snoc_self ls hh)⟩
    · obtain ⟨event, he⟩ := ih
      exact ⟨event, eventOf_snoc he fun value hv => h ⟨value, hv⟩⟩

/-- Lines that start no event pass the event on. -/
theorem eventOf_append {rest : List (List Char)} (he : EventOf ls event)
    (hno : NoHeader "Event".toList rest) : EventOf (ls ++ rest) event := by
  induction rest generalizing ls with
  | nil => rwa [List.append_nil]
  | cons line rest ih =>
    rw [List.append_cons]
    exact ih (eventOf_snoc he (hno line List.mem_cons_self)) fun l hl =>
      hno l (List.mem_cons_of_mem _ hl)

/-- The event before lines that start none is the event after them. -/
theorem eventOf_of_append {rest : List (List Char)} (he : EventOf (ls ++ rest) event)
    (hno : NoHeader "Event".toList rest) : EventOf ls event := by
  obtain ⟨event', he'⟩ := exists_eventOf ls
  rwa [he.unique (eventOf_append he' hno)]

/-- No event starts after the last total of headed lines. -/
theorem Headed.noHeader {front rest : List (List Char)} (h : Headed (front ++ line :: rest))
    (hlast : NoHeader "Event count".toList rest) : NoHeader "Event".toList rest := by
  obtain ⟨front', line', rest', value', hl, hh', hno⟩ := h
  rcases List.append_eq_append_iff.1 hl with ⟨mid, -, hm⟩ | ⟨mid, -, hm⟩
  · cases mid with
    | nil =>
      obtain ⟨-, rfl⟩ := List.cons.inj hm
      exact hno
    | cons m mid =>
      -- a total after the last one
      obtain ⟨-, rfl⟩ := List.cons.inj hm
      exact absurd hh' (hlast line' (List.mem_append_right _ List.mem_cons_self) value')
  · cases mid with
    | nil =>
      obtain ⟨-, rfl⟩ := List.cons.inj hm
      exact hno
    | cons m mid =>
      obtain ⟨-, rfl⟩ := List.cons.inj hm
      exact fun l hl => hno l (List.mem_append_right _ (List.mem_cons_of_mem _ hl))

/-- **After headed lines the total in force is one of the event in force.** -/
theorem Headed.exists_totalAt {total : Int} (h : Headed ls) (he : EventOf ls event)
    (ht : TotalOf ls total) : ∃ k, TotalAt ls k event total := by
  cases ht with
  | zero hno =>
    obtain ⟨front, line, rest, value, rfl, hh, -⟩ := h
    exact absurd hh (hno line (List.mem_append_right _ List.mem_cons_self) value)
  | @counted value n hlast hn =>
    obtain ⟨front, line, rest, rfl, hh, hrest⟩ := hlast
    have hno : NoHeader "Event".toList (line :: rest) := by
      intro l hl
      rcases List.mem_cons.1 hl with rfl | hl
      · exact no_header_of_header hh (by decide)
      · exact h.noHeader hrest l hl
    refine ⟨front.length, line, value, ?_, hh, hn, ?_⟩
    · rw [List.getElem?_append_right (Nat.le_refl _), Nat.sub_self]
      rfl
    · rw [List.take_left]
      exact eventOf_of_append he hno

theorem totalAt_lt {i : Nat} {total : Int} (h : TotalAt ls i event total) : i < ls.length := by
  obtain ⟨line, value, hl, -⟩ := h
  exact (List.getElem?_eq_some_iff.1 hl).1

/-- The first lines give the totals that they give. -/
theorem totalAt_append {rest : List (List Char)} {i : Nat} {total : Int}
    (h : TotalAt ls i event total) : TotalAt (ls ++ rest) i event total := by
  have hi := totalAt_lt h
  unfold TotalAt
  rwa [List.getElem?_append_left hi, List.take_append_of_le_length (Nat.le_of_lt hi)]

/-! ## 2. Reports with shares below their totals -/

/-- **A settled report:** each row of a wanted symbol comes after the total of its own event, and
the totals of an event do not fall. -/
structure Settled (wanted : List String) (ls : List (List Char)) : Prop where
  headed : ∀ i line percentage, ls[i]? = some line → WantedRow wanted line percentage →
    Headed (ls.take i)
  rising : ∀ i j event m n, i < j → TotalAt ls i event m → TotalAt ls j event n → m ≤ n

/-- **A report with keys that are read in one way:** the process has no dash, and all events are
apart from it, also the one without a name. -/
structure Unambiguous (process : String) (ls : List (List Char)) : Prop where
  undashed : '-' ∉ process.toList
  named : process ≠ ""
  apart : ∀ line ∈ ls, ∀ value, Header line "Event".toList value → Apart process (eventName value)

theorem Settled.left {rest : List (List Char)} (h : Settled wanted (ls ++ rest)) :
    Settled wanted ls := by
  constructor
  · intro i line percentage hl hw
    have hi : i < ls.length := (List.getElem?_eq_some_iff.1 hl).1
    have hh := h.headed i line percentage (by rwa [List.getElem?_append_left hi]) hw
    rwa [List.take_append_of_le_length (Nat.le_of_lt hi)] at hh
  · intro i j event m n hij hm hn
    exact h.rising i j event m n hij (totalAt_append hm) (totalAt_append hn)

theorem Unambiguous.left {rest : List (List Char)} (h : Unambiguous process (ls ++ rest)) :
    Unambiguous process ls :=
  ⟨h.undashed, h.named, fun line hl => h.apart line (List.mem_append_left _ hl)⟩

/-- The event in force is apart from the process. -/
theorem Unambiguous.apart_of_eventOf (h : Unambiguous process ls) (hsub : before ⊆ ls)
    (he : EventOf before event) : Apart process event := by
  cases he with
  | unnamed =>
    intro hm
    have hempty : process.toList = [] := List.mem_singleton.1 hm
    exact h.named (String.toList_inj.1 hempty)
  | named hlast =>
    obtain ⟨front, line, rest, rfl, hh, -⟩ := hlast
    exact h.apart line (hsub (List.mem_append_right _ List.mem_cons_self)) _ hh

section Keys

variable {value : String}

/-- Under an event's key only its totals are written. -/
theorem Unambiguous.total_of_writes (h : Unambiguous process ls) (hsub : before ⊆ ls)
    (ha : Apart process event)
    (hw : Writes process wanted before line (metricKey event process none) value) :
    ∃ text, Header line "Event count".toList text ∧ value = String.ofList (trim text) ∧
      EventOf before event := by
  generalize hk : metricKey event process none = key at hw
  cases hw with
  | total hh he =>
    obtain ⟨rfl, -⟩ := metricKey_inj h.undashed ha (h.apart_of_eventOf hsub he) hk
    exact ⟨_, hh, rfl, he⟩
  | row _ _ _ he =>
    obtain ⟨-, hs⟩ := metricKey_inj h.undashed ha (h.apart_of_eventOf hsub he) hk
    cases hs

/-- **Under a symbol's key only its shares are written,** each capped by the total in force. -/
theorem Unambiguous.share_of_writes (h : Unambiguous process ls) (hsub : before ⊆ ls)
    (ha : Apart process event) {symbol : String}
    (hw : Writes process wanted before line (metricKey event process (some symbol)) value) :
    ∃ percentage total n, WantedRow wanted line percentage ∧ EventOf before event ∧
      TotalOf before total ∧ value = toString n ∧ n ≤ total := by
  generalize hk : metricKey event process (some symbol) = key at hw
  cases hw with
  | total _ he =>
    obtain ⟨-, hs⟩ := metricKey_inj h.undashed ha (h.apart_of_eventOf hsub he) hk
    cases hs
  | row hrow hf hwant he ht _ hn =>
    obtain ⟨rfl, -⟩ := metricKey_inj h.undashed ha (h.apart_of_eventOf hsub he) hk
    exact ⟨_, _, _, ⟨hrow, _, hf, hwant⟩, he, ht, rfl, share_le_total hn⟩

end Keys

/-- **A share keeps to the total beside it,** if the report is settled and all its lines fit. -/
theorem Settled.share_le {symbol share total : String} (h : Settled wanted ls)
    (hu : Unambiguous process ls) (hfit : AllFit wanted ls) (ha : Apart process event)
    (hshare : LastWrite process wanted ls (metricKey event process (some symbol)) share)
    (htotal : LastWrite process wanted ls (metricKey event process none) total) :
    ∃ n t, share = toString n ∧ Numeral.readInteger total = .ok t ∧ n ≤ t := by
  obtain ⟨i, ⟨row, hrow, hwrites⟩, -⟩ := hshare
  obtain ⟨percentage, m, n, hwant, he, hm, rfl, hn⟩ :=
    hu.share_of_writes (List.take_subset i ls) ha hwrites
  -- the total that caps the share is one of its event
  obtain ⟨k, hk⟩ := (h.headed i row percentage hrow hwant).exists_totalAt he hm
  have hkm : TotalAt ls k event m := by
    rw [← List.take_append_drop i ls]
    exact totalAt_append hk
  -- the total beside the share is not an earlier one
  obtain ⟨j, ⟨header, hheader, hwrites'⟩, hlast⟩ := htotal
  obtain ⟨text, hh, rfl, he'⟩ := hu.total_of_writes (List.take_subset j ls) ha hwrites'
  obtain ⟨t, ht⟩ : ∃ t, Numeral.readInteger (String.ofList (trim text)) = .ok t := by
    by_contra hno
    exact (hfit j header hheader).1 (.total hh fun t ht => hno ⟨t, ht⟩)
  have hjt : TotalAt ls j event t := ⟨header, text, hheader, hh, ht, he'⟩
  refine ⟨n, t, rfl, ht, Int.le_trans hn ?_⟩
  rcases Nat.lt_trichotomy k j with hkj | rfl | hjk
  · exact h.rising k j event m t hkj hkm hjt
  · obtain ⟨line, value, hl, hv, hnum, -⟩ := hkm
    obtain rfl := Option.some.inj (hheader.symm.trans hl)
    obtain ⟨-, rfl⟩ := hh.unique hv
    exact Int.le_of_eq (Except.ok.inj (hnum.symm.trans ht))
  · obtain ⟨line, value, hl, hv, -, hek⟩ := hkm
    exact absurd ⟨line, hl, .total hv hek⟩ (hlast k _ hjk)

/-- **A report of one event is settled:** one total, no row of a wanted symbol before it, and no
event after it. -/
theorem settled_of_block {front rows : List (List Char)} {value : List Char}
    (hh : Header line "Event count".toList value) (hfront : NoHeader "Event count".toList front)
    (hbefore : ∀ l ∈ front, ∀ percentage, ¬ WantedRow wanted l percentage)
    (hrows : NoHeader "Event count".toList rows) (hevent : NoHeader "Event".toList rows) :
    Settled wanted (front ++ line :: rows) := by
  have honly : ∀ {i event total}, TotalAt (front ++ line :: rows) i event total →
      i = front.length := by
    rintro i event total ⟨l, v, hl, hv, -⟩
    rcases Nat.lt_trichotomy i front.length with hi | hi | hi
    · rw [List.getElem?_append_left hi] at hl
      exact absurd hv (hfront l (List.mem_of_getElem? hl) v)
    · exact hi
    · rw [List.getElem?_append_right (Nat.le_of_lt hi), List.getElem?_cons,
        if_neg (Nat.sub_ne_zero_of_lt hi)] at hl
      exact absurd hv (hrows l (List.mem_of_getElem? hl) v)
  constructor
  · intro i l percentage hl hw
    rcases Nat.lt_or_ge front.length i with hi | hi
    · refine ⟨front, line, rows.take (i - front.length - 1), value, ?_, hh, fun l hl => ?_⟩
      · rw [List.take_append, List.take_of_length_le (Nat.le_of_lt hi), List.take_cons (by omega)]
      · exact hevent l (List.mem_of_mem_take hl)
    · rcases Nat.lt_or_eq_of_le hi with hi | rfl
      · rw [List.getElem?_append_left hi] at hl
        exact absurd hw (hbefore l (List.mem_of_getElem? hl) percentage)
      · rw [List.getElem?_append_right (Nat.le_refl _), Nat.sub_self] at hl
        obtain rfl := Option.some.inj hl
        exact absurd hw.1 (not_row_of_header hh)
  · intro i j event m n hij hm hn
    have hi := honly hm
    have hj := honly hn
    omega

/-! ## 3. The metrics -/

/-- **A figure that is capped:** the text of a total, or a share of no more than the total in
force. -/
inductive Capped (before : List (List Char)) (line : List Char) : String → Prop
  | total {value} : Header line "Event count".toList value →
      Capped before line (String.ofList (trim value))
  | share {n total} : TotalOf before total → n ≤ total → Capped before line (toString (n : Int))

theorem Writes.capped {key value : String} (h : Writes process wanted before line key value) :
    Capped before line value := by
  cases h with
  | total hh => exact .total hh
  | row _ _ _ _ ht _ hn => exact .share ht (share_le_total hn)

/-- The first lines write what they write. -/
theorem writesAt_append (rest : List (List Char)) {i : Nat} {key value : String}
    (h : WritesAt process wanted ls i key value) :
    WritesAt process wanted (ls ++ rest) i key value := by
  have hi := writesAt_lt h
  unfold WritesAt
  rwa [List.getElem?_append_left hi, List.take_append_of_le_length (Nat.le_of_lt hi)]

/-- **What caps the shares in the metrics,** complete or partial.  They hold what the lines read
write, and each figure is a total, or a share capped by the total in force where it was written.
After headed lines that is a total of the event in force.  In a settled report with keys that are
read in one way, no share of an event exceeds the total of the event beside it. -/
theorem parseReport_capped {text : String} {parsed : ParsedReport}
    (h : parseReport text process wanted = .ok parsed) :
    Gathers process wanted (lines text.toList) parsed ∧
    (∀ key value, parsed.metrics.get? key = some value →
      ∃ i line, (lines text.toList)[i]? = some line ∧
        Writes process wanted ((lines text.toList).take i) line key value ∧
        Capped ((lines text.toList).take i) line value) ∧
    (∀ i event total, Headed ((lines text.toList).take i) →
      EventOf ((lines text.toList).take i) event → TotalOf ((lines text.toList).take i) total →
      ∃ k, k < i ∧ TotalAt (lines text.toList) k event total) ∧
    (Settled wanted (lines text.toList) → Unambiguous process (lines text.toList) →
      ∀ event symbol share total, Apart process event →
        parsed.metrics.get? (metricKey event process (some symbol)) = some share →
        parsed.metrics.get? (metricKey event process none) = some total →
        ∃ n t, share = toString n ∧ Numeral.readInteger total = .ok t ∧ n ≤ t) := by
  have hg := parseReport_gathers h
  obtain ⟨front, rest, hl, hfit, hm⟩ := hg.exists_front
  refine ⟨hg, fun key value hv => ?_, fun i event total hhead he ht => ?_, fun hs hu => ?_⟩
  · obtain ⟨i, hi, -⟩ := (hm key value).1 hv
    obtain ⟨line, hline, hw⟩ := writesAt_append rest hi
    rw [hl]
    exact ⟨i, line, hline, hw, hw.capped⟩
  · obtain ⟨k, hk⟩ := hhead.exists_totalAt he ht
    have hlt := totalAt_lt hk
    rw [List.length_take] at hlt
    refine ⟨k, by omega, ?_⟩
    rw [← List.take_append_drop i (lines text.toList)]
    exact totalAt_append hk
  · rw [hl] at hs hu
    intro event symbol share total ha hshare htotal
    exact hs.left.share_le hu.left hfit ha ((hm _ _).1 hshare) ((hm _ _).1 htotal)

/-- One event with its total and a row after it. -/
def settledReport : String := "Event: cpu-cycles (type 0)\nEvent count: 200\n50.00%  12  foo()\n"

theorem exists_lines_settledReport : ∃ first total row,
    lines settledReport.toList = [first, total, row] ∧
      ReportLine.read first = .event "cpu-cycles" ∧ ReportLine.read total = .total "200" ∧
      ReportLine.read row = .row "50.00%" "foo()" :=
  ⟨_, _, _, rfl, by decide +kernel, by decide +kernel, by decide +kernel⟩

theorem settled_settledReport : Settled ["foo()"] (lines settledReport.toList) := by
  obtain ⟨first, total, row, hlines, hfirst, htotal, hrow⟩ := exists_lines_settledReport
  obtain ⟨name, hname, -⟩ := read_eq_event_iff.1 hfirst
  obtain ⟨value, hvalue, -⟩ := read_eq_total_iff.1 htotal
  have hnone : ∀ label, NoHeader label [row] := by
    intro label l hl v h
    rw [List.mem_singleton.1 hl] at h
    exact not_row_of_header h (read_eq_row_iff.1 hrow).1
  have hblock : Settled ["foo()"] ([first] ++ total :: [row]) := by
    refine settled_of_block hvalue ?_ ?_ (hnone _) (hnone _)
    · intro l hl
      rw [List.mem_singleton.1 hl]
      exact no_header_of_header hname (by decide)
    · intro l hl percentage hw
      rw [List.mem_singleton.1 hl] at hw
      exact not_row_of_header hname hw.1
  rw [hlines]
  exact hblock

theorem unambiguous_settledReport : Unambiguous "sf" (lines settledReport.toList) := by
  obtain ⟨first, total, row, hlines, hfirst, htotal, hrow⟩ := exists_lines_settledReport
  refine ⟨by decide, by decide, fun l hl v h => ?_⟩
  have hread := (ReadsAs.event h).read_eq
  rw [hlines] at hl
  rcases List.mem_cons.1 hl with rfl | hl
  · rw [hfirst] at hread
    have hname := ReportLine.event.inj hread
    show Apart "sf" (String.ofList _)
    rw [← hname]
    decide
  · rcases List.mem_cons.1 hl with rfl | hl
    · rw [htotal] at hread
      cases hread
    · rw [List.mem_singleton.1 hl, hrow] at hread
      cases hread

/-- In a settled report the share and the total beside it are those of the same event. -/
theorem parseReport_capped_settledReport :
    Settled ["foo()"] (lines settledReport.toList) ∧
      Unambiguous "sf" (lines settledReport.toList) ∧
      ∃ parsed, parseReport settledReport "sf" ["foo()"] = .ok parsed ∧
        parsed.metrics.get? (metricKey "cpu-cycles" "sf" (some "foo()")) = some "100" ∧
        parsed.metrics.get? (metricKey "cpu-cycles" "sf" none) = some "200" ∧
        ∃ n t, "100" = toString (n : Int) ∧ Numeral.readInteger "200" = .ok t ∧ n ≤ t := by
  have h : parseReport settledReport "sf" ["foo()"] =
      .ok ⟨⟨[("cpu-cycles-sf", "200"), ("cpu-cycles-sf-foo()", "100")]⟩, none⟩ := by decide +kernel
  have hshare : (Metrics.mk [("cpu-cycles-sf", "200"), ("cpu-cycles-sf-foo()", "100")]).get?
      (metricKey "cpu-cycles" "sf" (some "foo()")) = some "100" := by decide
  have hcap := (parseReport_capped h).2.2.2 settled_settledReport unambiguous_settledReport
  exact ⟨settled_settledReport, unambiguous_settledReport, _, h, hshare, by decide,
    hcap "cpu-cycles" "foo()" _ _ (by decide) hshare (by decide)⟩

/-- The share of a row that comes before the total of its event is capped by the one before. -/
def earlyRow : String :=
  "Event: cycles\nEvent count: 1000\n50.00%  12  foo()\n" ++
    "Event: instructions\n50.00%  12  foo()\nEvent count: 10\n"

/-- An event with a second total that is less than its share of the first. -/
def fallingTotal : String :=
  "Event: cycles\nEvent count: 1000\n50.00%  12  foo()\nEvent count: 10\n"

/-- **Without these conditions a share may pass the total beside it,** though the report is read to
its end. -/
theorem parseReport_uncapped :
    parseReport earlyRow "sf" ["foo()"] =
        .ok ⟨⟨[("cycles-sf", "1000"), ("cycles-sf-foo()", "500"), ("instructions-sf-foo()", "500"),
          ("instructions-sf", "10")]⟩, none⟩ ∧
      parseReport fallingTotal "sf" ["foo()"] =
        .ok ⟨⟨[("cycles-sf", "10"), ("cycles-sf-foo()", "500")]⟩, none⟩ ∧
      ¬ ∀ text process wanted parsed event symbol share total n t,
        parseReport text process wanted = .ok parsed →
        parsed.metrics.get? (metricKey event process (some symbol)) = some share →
        parsed.metrics.get? (metricKey event process none) = some total →
        Numeral.readInteger share = .ok n → Numeral.readInteger total = .ok t → n ≤ t := by
  have hearly : parseReport earlyRow "sf" ["foo()"] =
      .ok ⟨⟨[("cycles-sf", "1000"), ("cycles-sf-foo()", "500"), ("instructions-sf-foo()", "500"),
        ("instructions-sf", "10")]⟩, none⟩ := by decide +kernel
  refine ⟨hearly, by decide +kernel, fun h => ?_⟩
  have hle := h earlyRow "sf" ["foo()"] _ "instructions" "foo()" "500" "10" 500 10 hearly
    (by decide) (by decide) (by decide) (by decide)
  exact absurd hle (by decide)

end DeviceSampling
