/-
# The figures of a run side by side

A run puts the figures of several processes into one mapping, and its keys are joined with a dash
that names may hold too.  If no process has a dash and no event that a report names has a process
among its pieces, the keys keep the figures apart: not within one report only, but through the
whole run.  Nothing is overwritten, and the metrics are those of the processes one after the other.

* `Figure`, `Gives`: what a line gives a figure of;
* `NamesApart`: a text whose events can be told from some processes;
* `FigureOf`: the figures of a run; `figureOf_inj`: their keys tell them apart;
* `reportRun_keepsApart`: **the metrics of a complete run are the disjoint union of its parts.**
-/
import DeviceSampling.Proofs.MetricKeys
import DeviceSampling.Proofs.ReportRuns

namespace DeviceSampling

open Text

/-! ## 1. Figures -/

/-- What a figure is about: an event's total for a process, or a symbol's share of it. -/
@[ext]
structure Figure where
  event : String
  process : String
  symbol : Option String
  deriving DecidableEq, Repr

/-- The key of a figure. -/
def Figure.key (f : Figure) : String := metricKey f.event f.process f.symbol

section Lines

variable {process : String} {wanted : List String} {before : List (List Char)} {line : List Char}

/-- **The figure that a line gives,** after the lines before it: a total of the event in force, or
a share of a wanted symbol in it. -/
inductive Gives (process : String) (wanted : List String) (before : List (List Char))
    (line : List Char) : Figure → Prop
  | total {event value} : Header line "Event count".toList value → EventOf before event →
      Gives process wanted before line ⟨event, process, none⟩
  | row {event percentage symbol} : Row line → RowFields line percentage symbol →
      String.ofList symbol ∈ wanted → EventOf before event →
      Gives process wanted before line ⟨event, process, some (String.ofList symbol)⟩

theorem Gives.counts {f : Figure} (h : Gives process wanted before line f) : Counts wanted line := by
  cases h with
  | total hh => exact Or.inl ⟨_, hh⟩
  | row hrow hf hw => exact Or.inr ⟨_, hrow, _, hf, hw⟩

theorem Gives.process_eq {f : Figure} (h : Gives process wanted before line f) :
    f.process = process := by
  cases h <;> rfl

/-- The event of a figure is the one in force. -/
theorem Gives.eventOf {f : Figure} (h : Gives process wanted before line f) :
    EventOf before f.event := by
  cases h with
  | total _ he => exact he
  | row _ _ _ he => exact he

/-- What a line writes, it writes under the key of a figure that it gives. -/
theorem Writes.exists_gives {key value : String} (h : Writes process wanted before line key value) :
    ∃ f, Gives process wanted before line f ∧ f.key = key := by
  cases h with
  | total hh he => exact ⟨_, .total hh he, rfl⟩
  | row hrow hf hw he => exact ⟨_, .row hrow hf hw he, rfl⟩

theorem Gives.unique {f f' : Figure} (h : Gives process wanted before line f)
    (h' : Gives process wanted before line f') : f = f' := by
  cases h with
  | total hh he =>
    cases h' with
    | total _ he' => rw [he.unique he']
    | row hrow => exact absurd hrow (not_row_of_header hh)
  | row hrow hf _ he =>
    cases h' with
    | total hh => exact absurd hrow (not_row_of_header hh)
    | row _ hf' _ he' => rw [(hf.unique hf').2, he.unique he']

end Lines

/-- The text gives the figure, in one of its lines. -/
def GivesFigure (process : String) (wanted : List String) (text : String) (f : Figure) : Prop :=
  ∃ i line, (lines text.toList)[i]? = some line ∧
    Gives process wanted ((lines text.toList).take i) line f

theorem GivesFigure.process_eq {process : String} {wanted : List String} {text : String}
    {f : Figure} (h : GivesFigure process wanted text f) : f.process = process := by
  obtain ⟨i, line, -, hf⟩ := h
  exact hf.process_eq

/-- **The keys of a report that was read to its end** are those of its figures. -/
theorem mem_keys_iff_givesFigure {text process : String} {wanted : List String} {m : Metrics}
    (h : parseReport text process wanted = .ok ⟨m, none⟩) {key : String} :
    key ∈ m.keys ↔ ∃ f, GivesFigure process wanted text f ∧ f.key = key := by
  obtain ⟨s, hs, rfl⟩ := stateAfter?_of_complete h
  have hd := stateAfter?_describes hs
  rw [Metrics.mem_keys_iff]
  constructor
  · rintro ⟨value, hv⟩
    obtain ⟨i, ⟨line, hl, hw⟩, -⟩ := (hd.values key value).1 hv
    obtain ⟨f, hf, hk⟩ := hw.exists_gives
    exact ⟨f, ⟨i, line, hl, hf⟩, hk⟩
  · rintro ⟨f, ⟨i, line, hl, hf⟩, rfl⟩
    obtain ⟨key, value, hw⟩ := hd.counted i line hl hf.counts
    obtain ⟨line', hl', hwrites⟩ := hw
    obtain rfl := Option.some.inj (hl.symm.trans hl')
    obtain ⟨f', hf', rfl⟩ := hwrites.exists_gives
    rw [hf.unique hf']
    obtain ⟨v, hv⟩ := exists_lastWrite ⟨line, hl, hwrites⟩
    exact ⟨v, (hd.values _ v).2 hv⟩

/-! ## 2. Events apart from the processes -/

/-- **A text whose events can be told from the processes:** none of them is a piece of an event that
the text names. -/
def NamesApart (processes : List String) (text : String) : Prop :=
  ∀ line ∈ lines text.toList, ∀ value, Header line "Event".toList value →
    ∀ process ∈ processes, Apart process (eventName value)

/-- The event that a line starts. -/
def ReportLine.eventName? : ReportLine → Option String
  | .event name => some name
  | _ => none

theorem namesApart_iff {processes : List String} {text : String} :
    NamesApart processes text ↔ ∀ line ∈ lines text.toList,
      ∀ name ∈ (ReportLine.read line).eventName?, ∀ process ∈ processes, Apart process name := by
  have hname : ∀ line name, (ReportLine.read line).eventName? = some name ↔
      ReportLine.read line = .event name := by
    intro line name
    cases ReportLine.read line <;> simp [ReportLine.eventName?]
  simp only [NamesApart, Option.mem_def, hname, read_eq_event_iff]
  constructor
  · rintro h line hl name ⟨value, hh, rfl⟩
    exact h line hl value hh
  · intro h line hl value hh
    exact h line hl _ ⟨value, hh, rfl⟩

instance (processes : List String) (text : String) : Decidable (NamesApart processes text) :=
  decidable_of_iff' _ namesApart_iff

/-- The event in force in such a text can be told from the processes. -/
theorem NamesApart.apartFromAll {processes : List String} {text event : String}
    {before : List (List Char)} (h : NamesApart processes text)
    (hsub : before ⊆ lines text.toList) (he : EventOf before event) :
    ApartFromAll processes event := by
  cases he with
  | unnamed => exact Or.inl rfl
  | named hlast =>
    obtain ⟨front, line, rest, rfl, hh, -⟩ := hlast
    exact Or.inr (h line (hsub (List.mem_append_right _ List.mem_cons_self)) _ hh)

namespace Session

open Dialog

variable {config : SamplerConfig} {record : String} {wanted : List String}
variable {processes : List (String × String)}

/-! ## 3. The figures of a run -/

/-- A figure that the report of one of the visits gives. -/
def FigureOf (wanted : List String) (visits : List Visit) (f : Figure) : Prop :=
  ∃ v ∈ visits, GivesFigure v.process wanted v.showing.output f

/-- **The figures of a run have keys of their own.** -/
theorem figureOf_inj {visits : List Visit} {names : List String}
    (hnames : ∀ v ∈ visits, v.process ∈ names) (hdash : ∀ p ∈ names, '-' ∉ p.toList)
    (happart : ∀ v ∈ visits, NamesApart names v.showing.output) {f f' : Figure}
    (h : FigureOf wanted visits f) (h' : FigureOf wanted visits f') (hkey : f.key = f'.key) :
    f = f' := by
  obtain ⟨v, hv, i, line, -, hf⟩ := h
  obtain ⟨v', hv', i', line', -, hf'⟩ := h'
  obtain ⟨hevent, hprocess, hsymbol⟩ := metricKey_inj_of_mem hdash
    (hf.process_eq ▸ hnames v hv) (hf'.process_eq ▸ hnames v' hv')
    ((happart v hv).apartFromAll (List.take_subset i _) hf.eventOf)
    ((happart v' hv').apartFromAll (List.take_subset i' _) hf'.eventOf) hkey
  exact Figure.ext hevent hprocess hsymbol

/-- The keys of a visit are those of its figures. -/
theorem mem_keys_of_visit {v : Visit} (h : v.Complete wanted) {key : String} :
    key ∈ v.metrics.keys ↔
      ∃ f, GivesFigure v.process wanted v.showing.output f ∧ f.key = key :=
  mem_keys_iff_givesFigure h.2.2

/-- **Reports of different processes share no key.** -/
theorem disjoint_keys_of_visits {visits : List Visit} {names : List String}
    (hnames : ∀ v ∈ visits, v.process ∈ names) (hdash : ∀ p ∈ names, '-' ∉ p.toList)
    (happart : ∀ v ∈ visits, NamesApart names v.showing.output)
    (hall : ∀ v ∈ visits, Visit.Complete wanted v) (honce : (visits.map Visit.process).Nodup) :
    visits.Pairwise fun v v' => List.Disjoint v.metrics.keys v'.metrics.keys := by
  have hne : visits.Pairwise fun v v' => v.process ≠ v'.process := List.pairwise_map.1 honce
  refine hne.imp_of_mem fun {v v'} hv hv' hne key hkey hkey' => ?_
  obtain ⟨f, hf, rfl⟩ := (mem_keys_of_visit (hall v hv)).1 hkey
  obtain ⟨f', hf', hk⟩ := (mem_keys_of_visit (hall v' hv')).1 hkey'
  obtain rfl := figureOf_inj hnames hdash happart ⟨v, hv, hf⟩ ⟨v', hv', hf'⟩ hk.symm
  exact hne (hf.process_eq.symm.trans hf'.process_eq)

/-- A run that was complete visited all processes, and its metrics are the union of theirs. -/
theorem reportRun_complete {es : List Deed} {report : RunReport}
    (h : (reportRun config record processes wanted).MayGo es (.ok report))
    (hc : report.complete = true) :
    ∃ visits : List Visit, processes = visits.map Visit.asked ∧
      (∀ v ∈ visits, Visit.Complete wanted v) ∧
      es = visits.flatMap (Visit.deeds config record) ∧
      report.metrics = Metrics.unionAll (visits.map Visit.metrics) := by
  obtain ⟨visits, rest, last, hp, hes, hall, hend⟩ := reportRunFrom_mayGo h
  cases hend with
  | finished =>
    rw [List.append_nil] at hp hes
    refine ⟨visits, hp, hall, hes, ?_⟩
    rw [← List.append_nil (visits.map Visit.metrics), ← mergeVisits_merge]
    rfl
  | failed => cases hc

theorem map_process_asked (visits : List Visit) :
    (visits.map Visit.asked).map Prod.fst = visits.map Visit.process := by
  rw [List.map_map]
  rfl

/-- **No metric of a process takes the place of another.**  Let a run over processes that come once
each be complete, let no process have a dash, and let no report name an event with a process among
its pieces.  Then all figures of the run have different keys, each key of the metrics is that of one
figure, no two reports share a key, and the metrics are those of the reports one after the other. -/
theorem reportRun_keepsApart {σ : Type} (w : World ShellCall ShellAnswer σ) (world : σ)
    (config : SamplerConfig) (record : String) (processes : List (String × String))
    (wanted : List String) (report : RunReport)
    (hresult : ((reportRun config record processes wanted).run w world).result = .ok report)
    (hcomplete : report.complete = true) (honce : (processes.map Prod.fst).Nodup)
    (hdash : ∀ p ∈ processes.map Prod.fst, '-' ∉ p.toList)
    (happart : ∀ c t, Event.called c (.ok t) ∈
        ((reportRun config record processes wanted).run w world).events →
      c.purpose = .readReport → NamesApart (processes.map Prod.fst) t.output) :
    ∃ visits : List Visit,
      processes = visits.map Visit.asked ∧ (∀ v ∈ visits, Visit.Complete wanted v) ∧
      deeds ((reportRun config record processes wanted).run w world).events =
        visits.flatMap (Visit.deeds config record) ∧
      (∀ f f', FigureOf wanted visits f → FigureOf wanted visits f' → f.key = f'.key → f = f') ∧
      (∀ key, key ∈ report.metrics.keys ↔ ∃ f, FigureOf wanted visits f ∧ f.key = key) ∧
      (visits.Pairwise fun v v' => List.Disjoint v.metrics.keys v'.metrics.keys) ∧
      report.metrics.entries = visits.flatMap (·.metrics.entries) ∧
      (∀ v ∈ visits, ∀ key ∈ v.metrics.keys, report.metrics.get? key = v.metrics.get? key) := by
  have hgo := run_mayGo w (reportRun config record processes wanted) world
  rw [hresult] at hgo
  obtain ⟨visits, rfl, hall, hes, hm⟩ := reportRun_complete hgo hcomplete
  rw [map_process_asked] at honce hdash happart
  have hnames : ∀ v ∈ visits, NamesApart (visits.map Visit.process) v.showing.output := by
    intro v hv
    have hshown : shown record (.ok v.showing) ∈ visits.flatMap (Visit.deeds config record) :=
      List.mem_flatMap.2 ⟨v, hv, List.mem_cons_of_mem _ List.mem_cons_self⟩
    rw [← hes] at hshown
    exact happart _ _ (mem_deeds.1 hshown).1 rfl
  have hmem : ∀ v ∈ visits, v.process ∈ visits.map Visit.process :=
    fun v hv => List.mem_map_of_mem hv
  have hdisjoint := disjoint_keys_of_visits hmem hdash hnames hall honce
  have hparts : (visits.map Visit.metrics).Pairwise fun m n => List.Disjoint m.keys n.keys :=
    List.pairwise_map.2 hdisjoint
  have hnodup : ∀ m ∈ visits.map Visit.metrics, m.keys.Nodup := by
    have hstop : RunStops config record wanted [] [] [] none := .finished
    simpa using nodup_keys_of_visits hall hstop
  refine ⟨visits, rfl, hall, hes, fun f f' => figureOf_inj hmem hdash hnames, fun key => ?_,
    hdisjoint, ?_, fun v hv key hkey => ?_⟩
  · rw [hm, (Metrics.keys_unionAll_of_disjoint hnodup hparts).1]
    constructor
    · intro hkey
      obtain ⟨m, hmem, hkey⟩ := List.mem_flatMap.1 hkey
      obtain ⟨v, hv, rfl⟩ := List.mem_map.1 hmem
      obtain ⟨f, hf, hk⟩ := (mem_keys_of_visit (hall v hv)).1 hkey
      exact ⟨f, ⟨v, hv, hf⟩, hk⟩
    · rintro ⟨f, ⟨v, hv, hf⟩, hk⟩
      exact List.mem_flatMap.2
        ⟨v.metrics, List.mem_map_of_mem hv, (mem_keys_of_visit (hall v hv)).2 ⟨f, hf, hk⟩⟩
  · rw [hm, Metrics.unionAll_of_disjoint hnodup hparts, List.flatMap_map]
  · rw [hm]
    exact Metrics.get?_unionAll_of_disjoint hnodup hparts (List.mem_map_of_mem hv) hkey

/-- A device that has the same report for every process: an event and a symbol with dashes. -/
def sameReportDevice : World ShellCall ShellAnswer Unit where
  call c _ :=
    match c.purpose with
    | .readReport => (.ok { output := "Event: cpu-cycles (type 0)\nEvent count: 200\n" ++
        "50.00%  12  a-b\nEvent: sf2\nEvent count: 8\n" }, ())
    | _ => (.ok {}, ())
  spawn _ _ := ((false, .ok {}), ())
  sleep _ _ := (false, ())

/-- Two processes with the same report have their figures side by side, dashes or not. -/
theorem reportRun_keepsApart_sameReportDevice :
    ∃ (report : RunReport) (visits : List Visit),
      ((reportRun {} "/data/a.data" [("sf", "12"), ("app", "34")] ["a-b"]).run sameReportDevice
        ()).result = .ok report ∧ report.complete = true ∧
      report.metrics.entries = visits.flatMap (·.metrics.entries) ∧
      report.metrics.entries =
        [("cpu-cycles-sf", "200"), ("cpu-cycles-sf-a-b", "100"), ("sf2-sf", "8"),
          ("cpu-cycles-app", "200"), ("cpu-cycles-app-a-b", "100"), ("sf2-app", "8")] := by
  have hrun : ((reportRun {} "/data/a.data" [("sf", "12"), ("app", "34")] ["a-b"]).run
      sameReportDevice ()).result = .ok ⟨⟨[("cpu-cycles-sf", "200"), ("cpu-cycles-sf-a-b", "100"),
        ("sf2-sf", "8"), ("cpu-cycles-app", "200"), ("cpu-cycles-app-a-b", "100"),
        ("sf2-app", "8")]⟩, none⟩ := by decide +kernel
  have happart : ∀ c t, Event.called c (.ok t) ∈
        ((reportRun {} "/data/a.data" [("sf", "12"), ("app", "34")] ["a-b"]).run sameReportDevice
          ()).events →
      c.purpose = .readReport →
      NamesApart ([("sf", "12"), ("app", "34")].map Prod.fst) t.output := by
    intro c t hc hp
    obtain ⟨s, hs⟩ := exists_call_of_called hc
    simp only [sameReportDevice, hp] at hs
    cases hs
    decide +kernel
  obtain ⟨visits, -, -, -, -, -, -, hentries, -⟩ :=
    reportRun_keepsApart sameReportDevice () {} "/data/a.data" [("sf", "12"), ("app", "34")] ["a-b"]
      _ hrun rfl (by decide) (by decide) happart
  exact ⟨_, visits, hrun, rfl, hentries, rfl⟩

end Session
end DeviceSampling
