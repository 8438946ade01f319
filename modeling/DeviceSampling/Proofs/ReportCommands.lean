/-
# How a report command runs

The ids of the processes are looked up in turn.  If a process is not found, the run is over.  Else
the reports of the processes are gathered with their ids, and the metrics are printed as one object.

* `LooksUp`, `LooksUpAll`: a look-up as the host sees it, and look-ups in turn;
* `lookUpAll_mayGo`: look-ups go so on a device that is ready;
* `map_fst_remember`, `lookup_remember`: the mapping that is made of them;
* `Reporting`: what a report is made with and for; `lookingUp`, `reporting`: the runs of its parts;
* `run_of_missing`, `run_of_found`: the run by its parts;
* `run_printsMetrics`: **what a report command does, prints and ends with.**
-/
import DeviceSampling.Proofs.JsonTexts
import DeviceSampling.Proofs.RecordRuns
import DeviceSampling.Proofs.ReportRuns

namespace DeviceSampling

open Dialog

namespace CommandLine

open Session

/-! ## 1. Look-ups in turn -/

/-- **A look-up as the host sees it:** the process with the ids that the answer shows. -/
def LooksUp (device : Device) (p : String × String) (e : HostDeed) : Prop :=
  ∃ a, device.Served ⟨.lookUp, lookUpCommand p.1, none⟩ a e ∧ Finds a p.2

/-- **How look-ups go in turn:** to the end, with ids for every process, or up to the first process
that has none. -/
inductive LooksUpAll (device : Device) :
    List String → List HostDeed → Option (List (String × String)) → Prop
  | all {looked es} : List.Forall₂ (LooksUp device) looked es → (∀ p ∈ looked, p.2 ≠ "") →
      LooksUpAll device (looked.map Prod.fst) es (some looked)
  | missing {looked process rest es} :
      List.Forall₂ (LooksUp device) (looked ++ [(process, "")]) es → (∀ p ∈ looked, p.2 ≠ "") →
      LooksUpAll device (looked.map Prod.fst ++ process :: rest) es none

/-- One more process in front. -/
theorem LooksUpAll.cons {device : Device} {p : String × String} {e : HostDeed}
    {processes : List String} {es : List HostDeed} {found : Option (List (String × String))}
    (h : LooksUpAll device processes es found) (he : LooksUp device p e) (hp : p.2 ≠ "") :
    LooksUpAll device (p.1 :: processes) (e :: es) (found.map (p :: ·)) := by
  cases h with
  | all hes hall => exact .all (.cons he hes) (List.forall_mem_cons.2 ⟨hp, hall⟩)
  | @missing looked process rest es hes hall =>
    exact @LooksUpAll.missing device (p :: looked) process rest _ (.cons he hes)
      (List.forall_mem_cons.2 ⟨hp, hall⟩)

/-- Keeps a process with its ids; one that comes again keeps its place. -/
def remember (found : List (String × String)) (p : String × String) : List (String × String) :=
  Metrics.insertEntry p.1 p.2 found

/-- **Look-ups on a device that is ready** go in turn, and remember what they find. -/
theorem lookUpAll_mayGo {device : Device} (hd : device.Ready) {processes : List String}
    {before : List (String × String)} {es : List HostDeed}
    {r : Except Fault (Option (List (String × String)))}
    (h : (lookUpAll device before processes).MayGo es r) :
    ∃ found, LooksUpAll device processes es found ∧
      r = .ok (found.map fun looked => looked.foldl remember before) := by
  induction processes generalizing before es with
  | nil =>
    obtain ⟨rfl, rfl⟩ := h
    exact ⟨some [], .all .nil (fun p hp => absurd hp List.not_mem_nil), rfl⟩
  | cons process rest ih =>
    rcases mayGo_bind.1 h with ⟨ids, front, back, rfl, hc, hk⟩ | ⟨fault, -, hc⟩
    · obtain ⟨deeds, hgo, hcarried⟩ := carryOut_mayGo hc
      obtain ⟨a, ids', rfl, hids, hfinds⟩ := processIds_mayGo hgo
      obtain rfl := Except.ok.inj hids
      -- the one command of the look-up is one deed of the host
      cases hd.shows hcarried with
      | @cons _ e _ _ hshows hnil =>
        cases hnil
        cases hshows with
        | called he =>
          have hlooks : LooksUp device (process, ids) e := ⟨a, he, hfinds⟩
          by_cases hempty : ids.isEmpty = true
          · rw [if_pos hempty] at hk
            obtain ⟨rfl, rfl⟩ := hk
            obtain rfl := String.isEmpty_iff.1 hempty
            exact ⟨none, @LooksUpAll.missing device [] process rest [e] (.cons hlooks .nil)
              (fun p hp => absurd hp List.not_mem_nil), rfl⟩
          · rw [if_neg hempty] at hk
            obtain ⟨found, hall, rfl⟩ := ih hk
            refine ⟨_, hall.cons hlooks (mt String.isEmpty_iff.2 hempty), ?_⟩
            cases found <;> rfl
    · obtain ⟨deeds, hgo, -⟩ := carryOut_mayGo hc
      obtain ⟨a, ids, -, hids, -⟩ := processIds_mayGo hgo
      cases hids

/-- The processes of look-ups that found all of them. -/
theorem LooksUpAll.map_fst {device : Device} {processes : List String} {es : List HostDeed}
    {looked : List (String × String)} (h : LooksUpAll device processes es (some looked)) :
    looked.map Prod.fst = processes := by
  cases h with
  | all => rfl

/-- Look-ups print nothing. -/
theorem LooksUpAll.printed_eq {device : Device} {processes : List String} {es : List HostDeed}
    {found : Option (List (String × String))} (h : LooksUpAll device processes es found) :
    printed es = [] := by
  have hnone : ∀ {looked es}, List.Forall₂ (LooksUp device) looked es → printed es = [] := by
    intro looked es h
    induction h with
    | nil => rfl
    | cons he _ ih =>
      obtain ⟨a, he, -⟩ := he
      cases he <;> exact ih
  cases h with
  | all hes => exact hnone hes
  | missing hes => exact hnone hes

/-! ## 2. The mapping -/

/-- A name that came before is passed over. -/
theorem eraseDups_concat (names : List String) (name : String) :
    (names ++ [name]).eraseDups =
      if name ∈ names then names.eraseDups else names.eraseDups ++ [name] := by
  rw [List.eraseDups_append]
  by_cases h : name ∈ names
  · have hnone : [name].removeAll names = [] := by simp [List.removeAll, h]
    rw [if_pos h, hnone]
    exact List.append_nil _
  · have hsame : [name].removeAll names = [name] := by simp [List.removeAll, h]
    rw [if_neg h, hsame]
    rfl

/-- **Each process is there once,** in the order in which they first came. -/
theorem map_fst_remember (looked : List (String × String)) :
    (looked.foldl remember []).map Prod.fst = (looked.map Prod.fst).eraseDups := by
  induction looked using List.reverseRecOn with
  | nil => rfl
  | append_singleton looked p ih =>
    rw [List.foldl_append, List.map_append, List.map_singleton, eraseDups_concat, ← ih]
    have hmem : p.1 ∈ (looked.foldl remember []).map Prod.fst ↔ p.1 ∈ looked.map Prod.fst := by
      rw [ih, List.mem_eraseDups]
    show (Metrics.insertEntry p.1 p.2 (looked.foldl remember [])).map Prod.fst = _
    rw [Metrics.keys_insertEntry]
    simp only [hmem]

/-- **It has the ids that were found last.** -/
theorem lookup_remember (looked : List (String × String)) (process : String) :
    (looked.foldl remember []).lookup process = looked.reverse.lookup process := by
  induction looked using List.reverseRecOn with
  | nil => rfl
  | append_singleton looked p ih =>
    rw [List.foldl_append, List.reverse_append]
    show (Metrics.insertEntry p.1 p.2 (looked.foldl remember [])).lookup process =
      (p :: looked.reverse).lookup process
    rw [Metrics.lookup_insertEntry, Metrics.lookup_cons_eq, ih]

theorem nodup_remember (looked : List (String × String)) :
    ((looked.foldl remember []).map Prod.fst).Nodup := by
  induction looked using List.reverseRecOn with
  | nil => exact List.nodup_nil
  | append_singleton looked p ih =>
    rw [List.foldl_append]
    exact Metrics.nodup_keys_insert (m := ⟨looked.foldl remember []⟩) ih p.1 p.2

/-- Every process of the mapping has the ids that were found last. -/
theorem lookup_of_mem_remember {looked : List (String × String)} {p : String × String}
    (h : p ∈ looked.foldl remember []) : looked.reverse.lookup p.1 = some p.2 := by
  rw [← lookup_remember]
  exact (Metrics.get?_eq_some_iff (m := ⟨looked.foldl remember []⟩) (nodup_remember looked)).2 h

/-! ## 3. The run by its parts -/

/-- Prints metrics and tells whether they are all: the end of a report. -/
def printReport (report : RunReport) : Host Nat := do
  Host.print (Json.writeMetrics report.metrics)
  match report.fault with
  | none => return 0
  | some fault =>
    say .warning ("Report is partial: " ++ fault.message)
    return 2

/-- **One object is printed,** and the exit code tells whether the metrics are all. -/
theorem printReport_mayGo {report : RunReport} {es : List HostDeed} {r : Except Fault Nat}
    (h : (printReport report).MayGo es r) :
    es = [line (Json.writeMetrics report.metrics)] ∧ r = .ok (if report.complete then 0 else 2) := by
  obtain ⟨_, rest, rfl, h⟩ := h
  change (match report.fault with
    | none => .done 0
    | some fault => (say .warning ("Report is partial: " ++ fault.message)).bind fun _ => .done 2 :
      Host Nat).MayGo rest r at h
  unfold RunReport.complete
  cases hfault : report.fault with
  | none =>
    rw [hfault] at h
    obtain ⟨rfl, rfl⟩ := h
    exact ⟨rfl, rfl⟩
  | some fault =>
    rw [hfault] at h
    obtain ⟨rfl, rfl⟩ := h
    exact ⟨rfl, rfl⟩

/-- A report to be made: on which device of which host, with which settings and of what. -/
structure Reporting (σ : Type) where
  host : World HostCall HostAnswer σ
  state : σ
  config : SamplerConfig
  device : Device
  request : ReportRequest

namespace Reporting

variable {σ : Type} (m : Reporting σ)

/-- The run of the report. -/
def run : Outcome HostCall HostAnswer σ Nat :=
  ((Command.report m.request).run m.config m.device).run m.host m.state

/-- The look-ups of its processes. -/
def lookingUp : Outcome HostCall HostAnswer σ (Option (List (String × String))) :=
  (lookUpAll m.device [] m.request.processes).run m.host m.state

/-- The reports of processes with their ids, after the look-ups. -/
def reporting (processes : List (String × String)) : Outcome HostCall HostAnswer σ RunReport :=
  (m.device.carryOut (reportRun m.config m.request.record processes m.request.symbols)).run m.host
    m.lookingUp.world

/-- What follows the look-ups. -/
def afterLookUps : Option (List (String × String)) → Host Nat
  | none => .done 1
  | some processes => (m.device.carryOut
      (reportRun m.config m.request.record processes m.request.symbols)).bind printReport

theorem run_eq : m.run = m.lookingUp.andThen fun found s => (m.afterLookUps found).run m.host s :=
  run_bind m.host (lookUpAll m.device [] m.request.processes) m.afterLookUps m.state

/-- **Look-ups that miss a process are all of the run.** -/
theorem run_of_missing (h : m.lookingUp.result = .ok none) :
    m.run.result = .ok 1 ∧ m.run.events = m.lookingUp.events := by
  rw [m.run_eq]
  unfold Outcome.andThen
  rw [h]
  exact ⟨rfl, List.append_nil _⟩

/-- After look-ups that found all processes come the reports, and what follows them. -/
theorem run_of_found {processes : List (String × String)}
    (h : m.lookingUp.result = .ok (some processes)) :
    m.run.result = ((m.reporting processes).andThen fun report s =>
        (printReport report).run m.host s).result ∧
      m.run.events = m.lookingUp.events ++ ((m.reporting processes).andThen fun report s =>
        (printReport report).run m.host s).events := by
  have hafter : (m.afterLookUps (some processes)).run m.host m.lookingUp.world =
      (m.reporting processes).andThen fun report s => (printReport report).run m.host s :=
    run_bind m.host _ printReport m.lookingUp.world
  rw [m.run_eq]
  unfold Outcome.andThen at hafter ⊢
  rw [h]
  dsimp only at hafter ⊢
  rw [hafter]
  exact ⟨rfl, rfl⟩

/-- The deeds of the reports are deeds of the run. -/
theorem mem_run_of_mem_reporting {processes : List (String × String)}
    (h : m.lookingUp.result = .ok (some processes)) {e : HostDeed}
    (he : e ∈ (m.reporting processes).events) : e ∈ m.run.events := by
  rw [(m.run_of_found h).2]
  refine List.mem_append_right _ ?_
  unfold Outcome.andThen
  cases (m.reporting processes).result with
  | error fault => exact he
  | ok report => exact List.mem_append_left _ he

/-- **Metrics that were gathered are printed,** and that is the end of the run. -/
theorem run_of_reported {processes : List (String × String)} {report : RunReport}
    (h : m.lookingUp.result = .ok (some processes))
    (hr : (m.reporting processes).result = .ok report) :
    m.run.result = .ok (if report.complete then 0 else 2) ∧
      deeds m.run.events = deeds m.lookingUp.events ++ (deeds (m.reporting processes).events ++
        [line (Json.writeMetrics report.metrics)]) := by
  obtain ⟨hresult, hevents⟩ := m.run_of_found h
  obtain ⟨hprint, hcode⟩ := printReport_mayGo
    (run_mayGo m.host (printReport report) (m.reporting processes).world)
  unfold Outcome.andThen at hresult hevents
  rw [hr] at hresult hevents
  dsimp only at hresult hevents
  rw [hresult, hevents, hcode, deeds_append, deeds_append, hprint]
  exact ⟨rfl, rfl⟩

/-- Look-ups on a steady device go in turn. -/
theorem lookingUp_goes (hw : m.device.Steady m.host) :
    ∃ found, LooksUpAll m.device m.request.processes (deeds m.lookingUp.events) found ∧
      m.lookingUp.result = .ok (found.map fun looked => looked.foldl remember []) :=
  lookUpAll_mayGo (hw.ready m.state) (run_mayGo m.host _ m.state)

/-! ## 4. What a report gathers -/

/-- **How the metrics of a report were gathered:** the processes were visited in turn, all of them
or up to the first that failed, and the metrics are those of the visits and of the failure. -/
def Gathered (processes : List (String × String)) (report : RunReport) : Prop :=
  ∃ (visits : List Visit) (rest : List (String × String)) (last : List Deed)
    (added : List Metrics),
    processes = visits.map Visit.asked ++ rest ∧
    (∀ v ∈ visits, Visit.Complete m.request.symbols v) ∧
    List.Forall₂ m.device.Shows
      (visits.flatMap (Visit.deeds m.config m.request.record) ++ last)
      (deeds (m.reporting processes).events) ∧
    RunStops m.config m.request.record m.request.symbols rest last added report.fault ∧
    report.metrics = Metrics.unionAll (visits.map Visit.metrics ++ added)

/-- No report that is read in these events has a share that overflows. -/
def InRange (events : List HostDeed) : Prop :=
  ∀ c t e, e ∈ events → m.device.Served c (.ok t) e → c.purpose = .readReport → t.ok = true →
    ¬ Overflows m.request.symbols t.output

/-- **The reports have a result on a steady device,** if no share overflows, and its keys are all
different. -/
theorem reporting_result (hw : m.device.Steady m.host) {processes : List (String × String)}
    (hrange : m.InRange (m.reporting processes).events) :
    ∃ report, (m.reporting processes).result = .ok report ∧ m.Gathered processes report ∧
      report.metrics.keys.Nodup := by
  obtain ⟨es, hgo, hcarried⟩ := exists_carried m.host m.device
    (reportRun m.config m.request.record processes m.request.symbols) m.lookingUp.world
  have hdevice : ∀ c f, Event.called c (.error f) ∈ es → ∃ message, f = .unreachable message :=
    fun c f hc => hw.foreseen hcarried hc f rfl
  have hread : ∀ c t, Event.called c (.ok t) ∈ es → c.purpose = .readReport → t.ok = true →
      ¬ Overflows m.request.symbols t.output := by
    intro c t hc
    obtain ⟨front, hserves, hsub⟩ := hcarried.exists_served hc
    cases hserves with
    | served he => exact hrange c t _ (mem_deeds.1 (hsub List.mem_cons_self)).1 he
    | refused _ ha => cases ha
  obtain ⟨visits, rest, last, added, fault, hresult, hprocesses, hall, hes, hstop⟩ :=
    reportRun_ends hgo hdevice hread
  have hshows := (hw.ready m.state).shows hcarried
  rw [hes] at hshows
  exact ⟨_, hresult, ⟨visits, rest, last, added, hprocesses, hall, hshows, hstop, rfl⟩,
    Metrics.nodup_keys_unionAll _⟩

/-! ## 5. What a report prints -/

/-- The reports of the processes print nothing. -/
theorem printed_reporting (processes : List (String × String)) :
    printed (m.reporting processes).events = [] := by
  obtain ⟨es, -, hcarried⟩ := exists_carried m.host m.device
    (reportRun m.config m.request.record processes m.request.symbols) m.lookingUp.world
  rw [← printed_deeds]
  exact printed_of_carried hcarried

/-- **What a report command does, prints and ends with.**  On a steady device, and if no share that
is read overflows, it looks the processes up in turn.  If one of them is not found, nothing is done
after that look-up, nothing is printed, and the exit code is 1.  Else the reports of the processes
are gathered: each process once, in the order in which they first came, and with the ids that were
found last.  The metrics are printed as one object, which is read back as just their entries, in
the order of their names; and the exit code is 0 if the metrics are all, and 2 if they are not.  An
invocation that comes to this report does and ends as it does. -/
theorem run_printsMetrics (hw : m.device.Steady m.host) (hrange : m.InRange m.run.events) :
    ((LooksUpAll m.device m.request.processes (deeds m.run.events) none ∧
        printed m.run.events = [] ∧ m.run.result = .ok 1) ∨
      ∃ looked processes report,
        LooksUpAll m.device m.request.processes (deeds m.lookingUp.events) (some looked) ∧
        m.lookingUp.result = .ok (some processes) ∧
        processes.map Prod.fst = m.request.processes.eraseDups ∧
        (∀ p ∈ processes, looked.reverse.lookup p.1 = some p.2) ∧
        (m.reporting processes).result = .ok report ∧ m.Gathered processes report ∧
        deeds m.run.events = deeds m.lookingUp.events ++ (deeds (m.reporting processes).events ++
          [line (Json.writeMetrics report.metrics)]) ∧
        printed m.run.events = [Json.writeMetrics report.metrics] ∧
        Json.read (Json.writeMetrics report.metrics) =
          .ok (.mapping ((Json.sortedEntries report.metrics).map Json.asValues)) ∧
        (Json.sortedEntries report.metrics).Perm report.metrics.entries ∧
        ((Json.sortedEntries report.metrics).map Prod.fst).Pairwise (· < ·) ∧
        m.run.result = .ok (if report.complete then 0 else 2)) ∧
    ∀ inv given files, Invocation.ComesTo inv given files m.config m.device (.report m.request) →
      (inv.run given files).run m.host m.state = exiting m.run := by
  refine ⟨?_, fun inv given files h => h.run_eq m.host m.state⟩
  obtain ⟨found, hall, hresult⟩ := m.lookingUp_goes hw
  cases found with
  | none =>
    obtain ⟨hend, hevents⟩ := m.run_of_missing hresult
    rw [hevents, ← printed_deeds]
    exact Or.inl ⟨hall, hall.printed_eq, hend⟩
  | some looked =>
    obtain ⟨report, hreport, hgathered, hkeys⟩ := m.reporting_result hw
      fun c t e he => hrange c t e (m.mem_run_of_mem_reporting hresult he)
    obtain ⟨hend, hdeeds⟩ := m.run_of_reported hresult hreport
    have hprinted : printed m.run.events = [Json.writeMetrics report.metrics] := by
      rw [← printed_deeds, hdeeds, printed_append, printed_append, hall.printed_eq, printed_deeds,
        m.printed_reporting]
      rfl
    have hnames : (looked.foldl remember []).map Prod.fst = m.request.processes.eraseDups := by
      rw [map_fst_remember, hall.map_fst]
    exact Or.inr ⟨looked, _, report, hall, hresult, hnames, fun p hp => lookup_of_mem_remember hp, hreport,
      hgathered, hdeeds, hprinted, Json.read_writeMetrics hkeys, Json.sortedEntries_perm _,
      Json.sortedEntries_increasing hkeys, hend⟩

end Reporting

/-- A device that counts the look-ups and shows another id for each; its reports are all the same. -/
def countingHost : World HostCall HostAnswer Nat where
  call
    | .shell c, n =>
      match c.purpose with
      | .lookUp => (Except.ok { output := toString (n + 10) ++ "\n" }, n + 1)
      | .readReport =>
        (Except.ok { output := "Event: cycles\nEvent count: 200\n50.00%  12  foo()\n" }, n)
      | _ => (Except.ok {}, n)
    | .process _, n => (.exited {}, n)
    | .makeDirectories _, n => (Except.ok (), n)
    | .print _, n => ((), n)
  spawn
    | .shell _, n => ((false, Except.ok {}), n)
    | .process _, n => ((false, ProcessOutcome.exited {}), n)
    | .makeDirectories _, n => ((false, Except.ok ()), n)
    | .print _, n => ((false, ()), n)
  sleep _ n := (false, n)

/-- A report of two processes, one of which is named twice. -/
def namedTwice : Reporting Nat where
  host := countingHost
  state := 0
  config := {}
  device := .given
  request := { record := "/data/a.data", processes := ["süd", "app", "süd"], symbols := ["foo()"] }

/-- What is found of the two processes, the one by its second look-up. -/
def foundTwice : List (String × String) := [("süd", "12"), ("app", "11")]

/-- The metrics of the two, in the order in which they are gathered. -/
def metricsTwice : Metrics :=
  ⟨[("cycles-süd", "200"), ("cycles-süd-foo()", "100"), ("cycles-app", "200"),
    ("cycles-app-foo()", "100")]⟩

/-- They are printed in the order of their names. -/
theorem sortedEntries_metricsTwice : Json.sortedEntries metricsTwice =
    [("cycles-app", "200"), ("cycles-app-foo()", "100"), ("cycles-süd", "200"),
      ("cycles-süd-foo()", "100")] := by
  have hnodup : metricsTwice.keys.Nodup := by decide
  have hincreasing : (Json.sortedEntries metricsTwice).Pairwise fun a b => a.1 < b.1 :=
    List.pairwise_map.1 (Json.sortedEntries_increasing hnodup)
  refine List.Perm.eq_of_pairwise (fun a b _ _ hab hba => absurd hba (lt_asymm hab)) hincreasing
    (by decide) ((Json.sortedEntries_perm metricsTwice).trans (by decide))

/-- The process that is named twice is reported once, with the ids that were found last, and the
object that is printed is read back as the metrics of both. -/
theorem run_printsMetrics_namedTwice :
    namedTwice.device.Steady namedTwice.host ∧ namedTwice.InRange namedTwice.run.events ∧
    ∃ report, namedTwice.lookingUp.result = .ok (some foundTwice) ∧
      (namedTwice.reporting foundTwice).result = .ok report ∧ report.metrics = metricsTwice ∧
      printed namedTwice.run.events = [Json.writeMetrics metricsTwice] ∧
      Json.read (Json.writeMetrics metricsTwice) =
        .ok (.mapping [(.text "cycles-app", .text "200"), (.text "cycles-app-foo()", .text "100"),
          (.text "cycles-süd", .text "200"), (.text "cycles-süd-foo()", .text "100")]) ∧
      namedTwice.run.result = .ok 0 := by
  have hcode : namedTwice.run.result = .ok 0 := by decide +kernel
  have hfound : namedTwice.lookingUp.result = .ok (some foundTwice) := by decide +kernel
  have hgathered : (namedTwice.reporting foundTwice).result.map RunReport.metrics =
      .ok metricsTwice := by decide +kernel
  have hsteady : namedTwice.device.Steady namedTwice.host := by
    intro c n a ha f hf
    have hrun : ((namedTwice.device.serve c).run namedTwice.host n).result =
        .ok (countingHost.call (.shell c) n).1 := rfl
    rw [hrun, hf] at ha
    simp only [countingHost] at ha
    split at ha <;> cases ha
  have hrange : namedTwice.InRange namedTwice.run.events := by
    intro c t e he hserved hp _
    cases hserved with
    | given =>
      obtain ⟨n, hn⟩ := exists_call_of_called he
      simp only [namedTwice, countingHost, hp] at hn
      cases hn
      exact not_overflows_of_isSome "app" (by decide +kernel)
  refine ⟨hsteady, hrange, ?_⟩
  rcases (namedTwice.run_printsMetrics hsteady hrange).1 with
    ⟨-, -, hmissing⟩ |
      ⟨-, processes, report, -, hlooked, -, -, hreport, -, -, hprinted, hread, -, -, -⟩
  · rw [hcode] at hmissing
    cases hmissing
  · rw [hfound] at hlooked
    cases hlooked
    rw [hreport] at hgathered
    have hmetrics : report.metrics = metricsTwice := Except.ok.inj hgathered
    rw [hmetrics] at hprinted hread
    rw [sortedEntries_metricsTwice] at hread
    exact ⟨report, hfound, hreport, hmetrics, hprinted, hread, hcode⟩

end CommandLine
end DeviceSampling
