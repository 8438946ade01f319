/-
# What a run of reports may do

A run goes through its processes in order and stops at the first that fails.  The part of one
process is one of three things: a `Visit` that is complete, a failure that ends the run with a
result (`Fails`), or a fault that leaves the run (`Breaks`).

* `processReport_mayGo`: the part of one process;
* `reportRunFrom_mayGo`: the run is complete visits, and then its end or the part that stopped it.
-/
import DeviceSampling.Proofs.SessionTraces
import DeviceSampling.Session.ReportRun

namespace DeviceSampling
namespace Session

open Dialog

variable {config : SamplerConfig} {record : String} {wanted : List String}

/-! ## 1. One process -/

/-- A report command with its answer. -/
def written (config : SamplerConfig) (record pids : String) (answer : Except Fault ShellResult) :
    Deed :=
  issued .report (config.reportCommand record pids) answer

/-- The reading of a report, with its answer. -/
def shown (record : String) (answer : Except Fault ShellResult) : Deed :=
  issued .readReport (readCommand (SamplerConfig.reportPath record)) answer

/-- A process whose report was written, shown and read to its end. -/
structure Visit where
  process : String
  pids : String
  /-- What the report command left. -/
  writing : ShellResult
  /-- What the reading of the report left. -/
  showing : ShellResult
  metrics : Metrics

namespace Visit

/-- The process and its ids, as they were asked for. -/
def asked (v : Visit) : String × String := (v.process, v.pids)

/-- The commands of a visit. -/
def deeds (config : SamplerConfig) (record : String) (v : Visit) : List Deed :=
  [written config record v.pids (.ok v.writing), shown record (.ok v.showing)]

/-- Both commands succeeded, and the metrics are those of a report that was read to its end. -/
def Complete (wanted : List String) (v : Visit) : Prop :=
  v.writing.ok = true ∧ v.showing.ok = true ∧
    parseReport v.showing.output v.process wanted = .ok ⟨v.metrics, none⟩

end Visit

/-- How the part of a process may fail: its commands, the metrics that it adds, and why the run
stops. -/
inductive Fails (config : SamplerConfig) (record : String) (wanted : List String)
    (process pids : String) : List Deed → Metrics → RunFault → Prop
  | reportUnreachable {message} :
      Fails config record wanted process pids
        [written config record pids (.error (.unreachable message))] {} (.unreachable message)
  | reportFailed {w} : w.ok = false →
      Fails config record wanted process pids
        [written config record pids (.ok w)] {} (.command "simpleperf report" w)
  | readUnreachable {w message} : w.ok = true →
      Fails config record wanted process pids
        [written config record pids (.ok w), shown record (.error (.unreachable message))] {}
        (.unreachable message)
  | readFailed {w t} : w.ok = true → t.ok = false →
      Fails config record wanted process pids
        [written config record pids (.ok w), shown record (.ok t)] {}
        (.command ("read " ++ SamplerConfig.reportPath record) t)
  | malformed {w t metrics fault} : w.ok = true → t.ok = true →
      parseReport t.output process wanted = .ok ⟨metrics, some fault⟩ →
      Fails config record wanted process pids
        [written config record pids (.ok w), shown record (.ok t)] metrics (.malformed fault)

/-- How a fault may leave the part of a process. -/
inductive Breaks (config : SamplerConfig) (record : String) (wanted : List String)
    (process pids : String) : List Deed → Fault → Prop
  | report {fault} : (∀ message, fault ≠ .unreachable message) →
      Breaks config record wanted process pids [written config record pids (.error fault)] fault
  | read {w fault} : w.ok = true → (∀ message, fault ≠ .unreachable message) →
      Breaks config record wanted process pids
        [written config record pids (.ok w), shown record (.error fault)] fault
  | overflow {w t overflow} : w.ok = true → t.ok = true →
      parseReport t.output process wanted = .error overflow →
      Breaks config record wanted process pids
        [written config record pids (.ok w), shown record (.ok t)] (.report overflow)

/-- Reading a report does nothing to the outside. -/
theorem readReport_mayGo {text process : String} {es : List Deed} {r : Except Fault ParsedReport}
    (h : (readReport text process wanted : Session ParsedReport).MayGo es r) :
    es = [] ∧ r = match parseReport text process wanted with
      | .ok parsed => .ok parsed
      | .error overflow => .error (.report overflow) := by
  unfold readReport at h
  split at h
  · next overflow hp =>
    obtain ⟨rfl, rfl⟩ := h
    rw [hp]
    exact ⟨rfl, rfl⟩
  · next parsed hp =>
    rw [hp]
    split at h
    · exact h
    · exact h

/-- An answer that does not reach the device ends the part with a failure, another fault leaves it,
and a result is gone on with. -/
theorem answer_mayGo {next : ShellResult → Session RunReport} {a : Except Fault ShellResult}
    {es : List Deed} {r : Except Fault RunReport}
    (h : (match a with
      | .error (.unreachable message) => processReport.cannotGenerate message
      | .error fault => .fail fault
      | .ok result => next result : Session RunReport).MayGo es r) :
    (∃ message, a = .error (.unreachable message) ∧ es = [] ∧
        r = .ok ⟨{}, some (.unreachable message)⟩) ∨
      (∃ fault, a = .error fault ∧ (∀ message, fault ≠ .unreachable message) ∧ es = [] ∧
        r = .error fault) ∨
      ∃ result, a = .ok result ∧ (next result).MayGo es r := by
  match a with
  | .ok result => exact Or.inr (Or.inr ⟨result, rfl, h⟩)
  | .error f =>
    cases f with
    | unreachable message => exact Or.inl ⟨message, rfl, h.1, h.2⟩
    | _ => exact Or.inr (Or.inl ⟨_, rfl, fun _ => Fault.noConfusion, h.1, h.2⟩)

/-- A report that was shown is a complete visit, a malformed one, or one that overflows. -/
theorem readShown_mayGo {text process : String} {es : List Deed} {r : Except Fault RunReport}
    (h : (readReport text process wanted >>= fun parsed =>
      return ⟨parsed.metrics, parsed.fault.map .malformed⟩ : Session RunReport).MayGo es r) :
    es = [] ∧ ((∃ metrics, parseReport text process wanted = .ok ⟨metrics, none⟩ ∧
        r = .ok ⟨metrics, none⟩) ∨
      (∃ metrics fault, parseReport text process wanted = .ok ⟨metrics, some fault⟩ ∧
        r = .ok ⟨metrics, some (.malformed fault)⟩) ∨
      ∃ overflow, parseReport text process wanted = .error overflow ∧
        r = .error (.report overflow)) := by
  rcases mayGo_bind.1 h with ⟨parsed, front, last, rfl, hp, rfl, rfl⟩ | ⟨f, rfl, hp⟩
  · obtain ⟨rfl, hparsed⟩ := readReport_mayGo hp
    refine ⟨rfl, ?_⟩
    cases heq : parseReport text process wanted with
    | error overflow =>
      rw [heq] at hparsed
      cases hparsed
    | ok parsed' =>
      rw [heq] at hparsed
      cases hparsed
      match parsed with
      | ⟨metrics, none⟩ => exact Or.inl ⟨metrics, rfl, rfl⟩
      | ⟨metrics, some fault⟩ => exact Or.inr (Or.inl ⟨metrics, fault, rfl, rfl⟩)
  · obtain ⟨rfl, hparsed⟩ := readReport_mayGo hp
    refine ⟨rfl, ?_⟩
    cases heq : parseReport text process wanted with
    | error overflow =>
      rw [heq] at hparsed
      cases hparsed
      exact Or.inr (Or.inr ⟨overflow, rfl, rfl⟩)
    | ok parsed =>
      rw [heq] at hparsed
      cases hparsed

/-- **The part of one process** is a complete visit, a failure, or the way of a fault. -/
theorem processReport_mayGo {process pids : String} {es : List Deed}
    {r : Except Fault RunReport} (h : (processReport config record wanted process pids).MayGo es r) :
    (∃ w t metrics, Visit.Complete wanted ⟨process, pids, w, t, metrics⟩ ∧
        es = Visit.deeds config record ⟨process, pids, w, t, metrics⟩ ∧
        r = .ok ⟨metrics, none⟩) ∨
      (∃ metrics fault, Fails config record wanted process pids es metrics fault ∧
        r = .ok ⟨metrics, some fault⟩) ∨
      ∃ fault, Breaks config record wanted process pids es fault ∧ r = .error fault := by
  obtain ⟨a, rest, rfl, ha⟩ := mayGo_issue.1 h
  rcases answer_mayGo ha with ⟨message, rfl, rfl, rfl⟩ | ⟨f, rfl, hf, rfl, rfl⟩ | ⟨w, rfl, ha⟩
  · exact Or.inr (Or.inl ⟨{}, _, .reportUnreachable, rfl⟩)
  · exact Or.inr (Or.inr ⟨f, .report hf, rfl⟩)
  · dsimp only at ha
    split at ha
    · next hw =>
      obtain ⟨rfl, rfl⟩ := ha
      rw [Bool.not_eq_true'] at hw
      exact Or.inr (Or.inl ⟨{}, _, .reportFailed hw, rfl⟩)
    · next hw =>
      rw [Bool.not_eq_true', Bool.not_eq_false] at hw
      obtain ⟨b, tail, rfl, hb⟩ := mayGo_issue.1 ha
      rcases answer_mayGo hb with ⟨message, rfl, rfl, rfl⟩ | ⟨f, rfl, hf, rfl, rfl⟩ | ⟨t, rfl, hb⟩
      · exact Or.inr (Or.inl ⟨{}, _, .readUnreachable hw, rfl⟩)
      · exact Or.inr (Or.inr ⟨f, .read hw hf, rfl⟩)
      · dsimp only at hb
        split at hb
        · next ht =>
          obtain ⟨rfl, rfl⟩ := hb
          rw [Bool.not_eq_true'] at ht
          exact Or.inr (Or.inl ⟨{}, _, .readFailed hw ht, rfl⟩)
        · next ht =>
          rw [Bool.not_eq_true', Bool.not_eq_false] at ht
          obtain ⟨rfl, hend⟩ := readShown_mayGo hb
          rcases hend with ⟨metrics, hp, rfl⟩ | ⟨metrics, fault, hp, rfl⟩ | ⟨overflow, hp, rfl⟩
          · exact Or.inl ⟨w, t, metrics, ⟨hw, ht, hp⟩, rfl, rfl⟩
          · exact Or.inr (Or.inl ⟨metrics, _, .malformed hw ht hp, rfl⟩)
          · exact Or.inr (Or.inr ⟨_, .overflow hw ht hp, rfl⟩)

/-! ## 2. All processes -/

/-- The metrics of visits, merged in order with what was gathered before. -/
def mergeVisits (gathered : Metrics) (visits : List Visit) : Metrics :=
  visits.foldl (fun m v => m.merge v.metrics) gathered

/-- How a run may end after its complete visits. -/
inductive RunEnds (config : SamplerConfig) (record : String) (wanted : List String)
    (gathered : Metrics) : List (String × String) → List Deed → Except Fault RunReport → Prop
  /-- No process is left. -/
  | finished : RunEnds config record wanted gathered [] [] (.ok ⟨gathered, none⟩)
  | failed {process pids rest es metrics fault} :
      Fails config record wanted process pids es metrics fault →
      RunEnds config record wanted gathered ((process, pids) :: rest) es
        (.ok ⟨gathered.merge metrics, some fault⟩)
  | broken {process pids rest es fault} : Breaks config record wanted process pids es fault →
      RunEnds config record wanted gathered ((process, pids) :: rest) es (.error fault)

/-- **A run is complete visits and its end.** -/
theorem reportRunFrom_mayGo : ∀ {processes : List (String × String)} {gathered : Metrics}
    {es : List Deed} {r : Except Fault RunReport},
    (reportRunFrom config record wanted gathered processes).MayGo es r →
      ∃ visits rest last, processes = visits.map Visit.asked ++ rest ∧
        es = visits.flatMap (Visit.deeds config record) ++ last ∧
        (∀ v ∈ visits, Visit.Complete wanted v) ∧
        RunEnds config record wanted (mergeVisits gathered visits) rest last r
  | [], gathered, es, r, h => by
    obtain ⟨rfl, rfl⟩ := h
    exact ⟨[], [], [], rfl, rfl, fun v hv => absurd hv List.not_mem_nil, .finished⟩
  | (process, pids) :: rest, gathered, es, r, h => by
    rcases mayGo_bind.1 h with ⟨one, front, tail, rfl, hp, hk⟩ | ⟨f, rfl, hp⟩
    · rcases processReport_mayGo hp with
        ⟨w, t, metrics, hc, rfl, hone⟩ | ⟨metrics, fault, hf, hone⟩ | ⟨f, -, hone⟩
      · cases hone
        obtain ⟨visits, rest', last, rfl, rfl, hall, hend⟩ := reportRunFrom_mayGo hk
        refine ⟨⟨process, pids, w, t, metrics⟩ :: visits, rest', last, rfl, ?_, ?_, hend⟩
        · rw [List.flatMap_cons, List.append_assoc]
        · intro v hv
          rcases List.mem_cons.1 hv with rfl | hv
          · exact hc
          · exact hall v hv
      · cases hone
        obtain ⟨rfl, rfl⟩ := hk
        rw [List.append_nil]
        exact ⟨[], _, front, rfl, rfl, fun v hv => absurd hv List.not_mem_nil, .failed hf⟩
      · cases hone
    · rcases processReport_mayGo hp with ⟨_, _, _, -, -, hone⟩ | ⟨_, _, -, hone⟩ | ⟨f', hb, hone⟩
      · cases hone
      · cases hone
      · cases hone
        exact ⟨[], _, es, rfl, rfl, fun v hv => absurd hv List.not_mem_nil, .broken hb⟩

end Session
end DeviceSampling
