/-
# What a run of reports gathers

A run asks the device for a report of each process in turn and reads it back.  If the device can
only fail to be reached, and no report overflows, the run has a result on every device: it visits
processes to their end until one fails, and it does nothing after that.

* `RunStops`: where a run stops, what the last process adds, and why;
* `reportRun_ends`: a run has a result, and the result is that of its visits and its stop;
* `reportRun_gathers`: **what a run does and what it gathers.**
-/
import DeviceSampling.Proofs.Metrics
import DeviceSampling.Proofs.ReportGrammar
import DeviceSampling.Proofs.ReportMeaning
import DeviceSampling.Proofs.ReportTraces

namespace DeviceSampling
namespace Session

open Dialog

variable {config : SamplerConfig} {record : String} {wanted : List String}

/-! ## 1. Where a run stops -/

/-- **Where a run stops:** the processes from there on, the last commands, the metrics that come on
top, and the fault.  With no process left there is none of them. -/
inductive RunStops (config : SamplerConfig) (record : String) (wanted : List String) :
    List (String × String) → List Deed → List Metrics → Option RunFault → Prop
  | finished : RunStops config record wanted [] [] [] none
  | failed {process pids rest es added fault} :
      Fails config record wanted process pids es added fault →
      RunStops config record wanted ((process, pids) :: rest) es [added] (some fault)

/-- There is a fault exactly if the run stops at a process. -/
theorem RunStops.fault_eq_none_iff {rest : List (String × String)} {es : List Deed}
    {added : List Metrics} {fault : Option RunFault}
    (h : RunStops config record wanted rest es added fault) : fault = none ↔ rest = [] := by
  cases h with
  | finished => exact iff_of_true rfl rfl
  | failed => exact iff_of_false (Option.some_ne_none _) (List.cons_ne_nil _ _)

/-- The metrics of visits and what comes on top are one union. -/
theorem mergeVisits_merge (visits : List Visit) (added : List Metrics) :
    added.foldl Metrics.merge (mergeVisits {} visits) =
      Metrics.unionAll (visits.map Visit.metrics ++ added) := by
  unfold mergeVisits Metrics.unionAll
  rw [List.foldl_append, List.foldl_map]

/-! ## 2. Faults that a run does not survive -/

/-- A run is only left because of a fault of the device, or of a report that overflows. -/
theorem not_breaks {process pids : String} {es : List Deed} {fault : Fault}
    (hdevice : ∀ c f, Event.called c (.error f) ∈ es → ∃ message, f = .unreachable message)
    (hrange : ∀ c t, Event.called c (.ok t) ∈ es → c.purpose = .readReport → t.ok = true →
      ¬ Overflows wanted t.output) :
    ¬ Breaks config record wanted process pids es fault := by
  intro h
  cases h with
  | report hf =>
    obtain ⟨message, hm⟩ := hdevice _ _ List.mem_cons_self
    exact hf message hm
  | read _ hf =>
    obtain ⟨message, hm⟩ := hdevice _ _ (List.mem_cons_of_mem _ List.mem_cons_self)
    exact hf message hm
  | overflow _ ht hp =>
    refine hrange _ _ (List.mem_cons_of_mem _ List.mem_cons_self) rfl ht ?_
    exact (parseReport_eq_error_iff process).1 ⟨_, hp⟩

/-! ## 3. Runs -/

/-- **A run that meets no such fault has a result.** -/
theorem reportRun_ends {processes : List (String × String)} {es : List Deed}
    {r : Except Fault RunReport} (h : (reportRun config record processes wanted).MayGo es r)
    (hdevice : ∀ c f, Event.called c (.error f) ∈ es → ∃ message, f = .unreachable message)
    (hrange : ∀ c t, Event.called c (.ok t) ∈ es → c.purpose = .readReport → t.ok = true →
      ¬ Overflows wanted t.output) :
    ∃ (visits : List Visit) (rest : List (String × String)) (last : List Deed)
      (added : List Metrics) (fault : Option RunFault),
      r = .ok ⟨Metrics.unionAll (visits.map Visit.metrics ++ added), fault⟩ ∧
      processes = visits.map Visit.asked ++ rest ∧ (∀ v ∈ visits, Visit.Complete wanted v) ∧
      es = visits.flatMap (Visit.deeds config record) ++ last ∧
      RunStops config record wanted rest last added fault := by
  obtain ⟨visits, rest, last, hp, hes, hall, hend⟩ := reportRunFrom_mayGo h
  cases hend with
  | finished =>
    refine ⟨visits, [], [], [], none, ?_, hp, hall, hes, .finished⟩
    rw [← mergeVisits_merge]
    rfl
  | @failed process pids rest last added fault hf =>
    refine ⟨visits, _, last, [added], some fault, ?_, hp, hall, hes, .failed hf⟩
    rw [← mergeVisits_merge]
    rfl
  | broken hb =>
    refine absurd hb (not_breaks (fun c f hc => hdevice c f ?_) fun c t hc => hrange c t ?_)
    · rw [hes]
      exact List.mem_append_right _ hc
    · rw [hes]
      exact List.mem_append_right _ hc

/-- The parts of a run have no key twice. -/
theorem nodup_keys_of_visits {visits : List Visit} {rest : List (String × String)}
    {last : List Deed} {added : List Metrics} {fault : Option RunFault}
    (hall : ∀ v ∈ visits, Visit.Complete wanted v)
    (hstop : RunStops config record wanted rest last added fault) :
    ∀ m ∈ visits.map Visit.metrics ++ added, m.keys.Nodup := by
  intro m hm
  rcases List.mem_append.1 hm with hm | hm
  · obtain ⟨v, hv, rfl⟩ := List.mem_map.1 hm
    exact nodup_keys_of_parseReport (hall v hv).2.2
  · cases hstop with
    | finished => cases hm
    | failed hf =>
      rw [List.mem_singleton.1 hm]
      cases hf with
      | malformed _ _ hp => exact nodup_keys_of_parseReport hp
      | _ => exact List.Pairwise.nil

/-- The metrics alone take the same run. -/
theorem run_reportMetrics {σ : Type} (w : World ShellCall ShellAnswer σ) (world : σ)
    (config : SamplerConfig) (record : String) (processes : List (String × String))
    (wanted : List String) :
    ((reportMetrics config record processes wanted).run w world).events =
        ((reportRun config record processes wanted).run w world).events ∧
      ((reportMetrics config record processes wanted).run w world).result =
        ((reportRun config record processes wanted).run w world).result.map RunReport.metrics := by
  have hrun : (reportMetrics config record processes wanted).run w world = _ :=
    run_bind w (reportRun config record processes wanted) (fun r => done r.metrics) world
  rw [hrun]
  unfold Outcome.andThen
  cases ((reportRun config record processes wanted).run w world).result with
  | error f => exact ⟨rfl, rfl⟩
  | ok r => exact ⟨List.append_nil _, rfl⟩

/-- **What a run of reports does and what it gathers.**  On every device that answers or cannot be
reached, and with reports that do not overflow, a run has a result.  It visits processes in order
and stops at the first that fails; its commands are those of the visits and of the failure.  Its
metrics are the union of what the visits and the failure gave, and it names a fault exactly if a
process failed.  The metrics alone are got by the same run. -/
theorem reportRun_gathers {σ : Type} (w : World ShellCall ShellAnswer σ) (world : σ)
    (config : SamplerConfig) (record : String) (processes : List (String × String))
    (wanted : List String)
    (hdevice : ∀ c s f, (w.call c s).1 = .error f → ∃ message, f = .unreachable message)
    (hrange : ∀ c t, Event.called c (.ok t) ∈
        ((reportRun config record processes wanted).run w world).events →
      c.purpose = .readReport → t.ok = true → ¬ Overflows wanted t.output) :
    ∃ (report : RunReport) (visits : List Visit) (rest : List (String × String))
      (last : List Deed) (added : List Metrics),
      ((reportRun config record processes wanted).run w world).result = .ok report ∧
      processes = visits.map Visit.asked ++ rest ∧ (∀ v ∈ visits, Visit.Complete wanted v) ∧
      deeds ((reportRun config record processes wanted).run w world).events =
        visits.flatMap (Visit.deeds config record) ++ last ∧
      RunStops config record wanted rest last added report.fault ∧
      (report.fault = none ↔ rest = []) ∧
      report.metrics = Metrics.unionAll (visits.map Visit.metrics ++ added) ∧
      (∀ key, report.metrics.get? key =
        (visits.map Visit.metrics ++ added).reverse.findSome? (·.get? key)) ∧
      ((reportMetrics config record processes wanted).run w world).events =
        ((reportRun config record processes wanted).run w world).events ∧
      ((reportMetrics config record processes wanted).run w world).result =
        .ok report.metrics := by
  have hgo := run_mayGo w (reportRun config record processes wanted) world
  have hfaults : ∀ c f, Event.called c (.error f) ∈
      deeds ((reportRun config record processes wanted).run w world).events →
      ∃ message, f = .unreachable message := by
    intro c f hc
    obtain ⟨s, hs⟩ := exists_call_of_called (mem_deeds.1 hc).1
    exact hdevice c s f hs
  obtain ⟨visits, rest, last, added, fault, hr, hp, hall, hes, hstop⟩ :=
    reportRun_ends hgo hfaults fun c t hc => hrange c t (mem_deeds.1 hc).1
  obtain ⟨hevents, hresult⟩ := run_reportMetrics w world config record processes wanted
  refine ⟨_, visits, rest, last, added, hr, hp, hall, hes, hstop, hstop.fault_eq_none_iff, rfl,
    fun key => ?_, hevents, ?_⟩
  · exact Metrics.get?_unionAll (nodup_keys_of_visits hall hstop) key
  · rw [hresult, hr]
    rfl

/-- A device that has a report to show the first time, and none after that. -/
def forgetfulDevice : World ShellCall ShellAnswer Bool where
  call c shown :=
    match c.purpose with
    | .report => (.ok {}, shown)
    | .readReport =>
      if shown then (.ok { errors := "cat: no such file\n", code := 1 }, true)
      else (.ok { output := "Event: cycles\nEvent count: 200\n50.00%  12  foo()\n" }, true)
    | _ => (.error (.unreachable "offline"), shown)
  spawn _ shown := ((false, .error (.unreachable "offline")), shown)
  sleep _ shown := (false, shown)

/-- The first process is visited to its end, the second fails, and what the first gave is kept. -/
theorem reportRun_gathers_forgetfulDevice :
    ∃ report : RunReport,
      ((reportRun {} "/data/a.data" [("a", "12"), ("b", "34 56")] ["foo()"]).run
        forgetfulDevice false).result = .ok report ∧
      report.fault.isSome = true ∧ report.metrics.get? "cycles-a-foo()" = some "100" ∧
      ((reportMetrics {} "/data/a.data" [("a", "12"), ("b", "34 56")] ["foo()"]).run
        forgetfulDevice false).result = .ok report.metrics := by
  have hdevice : ∀ c s f, (forgetfulDevice.call c s).1 = .error f →
      ∃ message, f = .unreachable message := by
    intro c s f h
    simp only [forgetfulDevice] at h
    split at h
    · cases h
    · split at h
      · cases h
      · cases h
    · cases h
      exact ⟨_, rfl⟩
  have hrange : ∀ c t, Event.called c (.ok t) ∈
        ((reportRun {} "/data/a.data" [("a", "12"), ("b", "34 56")] ["foo()"]).run
          forgetfulDevice false).events →
      c.purpose = .readReport → t.ok = true → ¬ Overflows ["foo()"] t.output := by
    intro c t hc hp ht
    obtain ⟨shown, hs⟩ := exists_call_of_called hc
    unfold forgetfulDevice at hs
    simp only [hp] at hs
    cases shown with
    | true =>
      cases hs
      cases ht
    | false =>
      cases hs
      exact not_overflows_of_isSome "a" (by decide +kernel)
  have hrun : ((reportRun {} "/data/a.data" [("a", "12"), ("b", "34 56")] ["foo()"]).run
      forgetfulDevice false).result = .ok ⟨⟨[("cycles-a", "200"), ("cycles-a-foo()", "100")]⟩,
        some (.command "read /data/a.data.txt" ⟨"", "cat: no such file\n", 1⟩)⟩ := by
    decide +kernel
  obtain ⟨report, -, -, -, -, hr, -, -, -, -, -, -, -, -, hm⟩ :=
    reportRun_gathers forgetfulDevice false {} "/data/a.data" [("a", "12"), ("b", "34 56")]
      ["foo()"] hdevice hrange
  refine ⟨report, hr, ?_, ?_, hm⟩
  · rw [hrun] at hr
    cases hr
    rfl
  · rw [hrun] at hr
    cases hr
    decide

end Session
end DeviceSampling
