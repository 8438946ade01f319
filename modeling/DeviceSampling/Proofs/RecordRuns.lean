/-
# How a recording runs

A recording starts the sampler, samples, stops it and keeps its record, and then hands the record
over: it says where the record is and copies it to the host if that is wanted.  Each part is only
come to if those before it succeeded.  A run on the host is therefore the runs of its parts, one
after the other, up to the first that fails.

* `Invocation.ComesTo`: an invocation runs as the command that it comes to;
* `Pulls`, `HandsOver`: how a record is copied and handed over;
* `Recording`: what a recording is made with and for; `start`, `sampling`, `stop`, `handingOver`: the
  runs of its parts;
* `run_of_not_started`, `run_of_not_kept`, `run_of_kept`: **the run by its parts**;
* `PullEnded`, `Pulled`, `PullBroke`: what became of the copy;
* `Delivered`, `delivered_of_kept`: what is printed of a record that was kept, and the end of the run.
-/
import DeviceSampling.Proofs.HostTraces

namespace DeviceSampling
namespace CommandLine

open Dialog Session

/-! ## 1. Invocations -/

/-- A result that is only passed on, in another form. -/
theorem run_bind_done {C : Type} {R : C → Type} {σ α β : Type} (w : World C R σ)
    (d : Dialog C R α) (f : α → β) (s : σ) :
    (d.bind fun a => .done (f a)).run w s =
      ⟨(d.run w s).result.map f, (d.run w s).events, (d.run w s).world⟩ := by
  rw [run_bind]
  unfold Outcome.andThen
  cases (d.run w s).result with
  | error fault => rfl
  | ok a => simp [Dialog.run, Except.map]

/-- The outcome of a command as that of an invocation: its result is the exit code. -/
def exiting {σ : Type} (o : Outcome HostCall HostAnswer σ Nat) :
    Outcome HostCall HostAnswer σ Completion :=
  ⟨o.result.map .exit, o.events, o.world⟩

/-- The invocation comes to a command, with these settings and on this device. -/
def Invocation.ComesTo (inv : Invocation) (given : Bool) (files : FileTree) (config : SamplerConfig)
    (device : Device) (command : Command) : Prop :=
  ∃ settings, inv.settings files = .ok settings ∧ settings.sampler = config ∧
    inv.device given settings.adb = device ∧ inv.command = command

/-- **An invocation runs as the command that it comes to.** -/
theorem Invocation.ComesTo.run_eq {inv : Invocation} {given : Bool} {files : FileTree}
    {config : SamplerConfig} {device : Device} {command : Command}
    (h : inv.ComesTo given files config device command) {σ : Type}
    (w : World HostCall HostAnswer σ) (s : σ) :
    (inv.run given files).run w s = exiting ((command.run config device).run w s) := by
  obtain ⟨settings, hsettings, rfl, rfl, rfl⟩ := h
  have hrun : inv.run given files =
      (inv.command.run settings.sampler (inv.device given settings.adb)).bind
        fun code => .done (.exit code) := by
    unfold Invocation.run
    rw [hsettings]
    rfl
  rw [hrun, run_bind_done]
  rfl

/-! ## 2. Sampling and handing over -/

/-- How long is sampled: for the duration, unless it is below zero. -/
def samplingTime (duration : Binary64) : Binary64 :=
  if Binary64.zero.lt duration then duration else .zero

/-- **Sampling is one sleep,** and goes on after it whether or not it was interrupted. -/
theorem sample_mayGo {duration : Binary64} {es : List HostDeed} {r : Except Fault Unit}
    (h : (sample duration).MayGo es r) :
    (∃ interrupted, es = [.slept (samplingTime duration) interrupted]) ∧ r = .ok () := by
  obtain ⟨interrupted, rest, rfl, h⟩ := h
  cases interrupted with
  | false =>
    obtain ⟨rfl, rfl⟩ := h
    exact ⟨⟨false, rfl⟩, rfl⟩
  | true =>
    obtain ⟨rfl, rfl⟩ := h
    exact ⟨⟨true, rfl⟩, rfl⟩

/-- A line of output. -/
def line (text : String) : HostDeed := .called (.print text) ()

/-- The directory above a place on the host is made, or not. -/
def directory (path : HostPath) (answer : Except Fault Unit) : HostDeed :=
  .called (.makeDirectories path.parent) answer

/-- The process that copies a record to the host. -/
def pullProcess (adb : Adb) (source : String) (path : HostPath) (limit : Option Binary64) :
    ProcessCall :=
  adb.process none ["pull", source, path.text] limit

/-- A copy of a record with its end. -/
def pull (adb : Adb) (source : String) (path : HostPath) (limit : Option Binary64)
    (outcome : ProcessOutcome) : HostDeed :=
  .called (.process (pullProcess adb source path limit)) outcome

/-- The line that says where the record is. -/
def wroteLine (source : String) : String := "Wrote record -> " ++ source

/-- The line that says where its copy is. -/
def pulledLine (path : HostPath) : String := "Pulled record -> " ++ path.text

/-- **How a record is copied:** by the bridge alone, with its directory made first. -/
inductive Pulls (source : String) (path : HostPath) :
    Device → List HostDeed → Except Fault Nat → Prop
  | unbridged : Pulls source path .given [] (.ok 1)
  | noDirectory {adb fault} :
      Pulls source path (.bridged adb) [directory path (.error fault)] (.error fault)
  | noLimit {adb fault} : adb.limit none = .error fault →
      Pulls source path (.bridged adb) [directory path (.ok ())] (.error fault)
  /-- The copy cannot be run to its end. -/
  | broken {adb limit outcome fault} : (∀ r, outcome ≠ .exited r) →
      adb.conclude (pullProcess adb source path limit) false outcome = .error fault →
      Pulls source path (.bridged adb)
        [directory path (.ok ()), pull adb source path limit outcome] (.error fault)
  | refused {adb limit r} : r.code ≠ 0 →
      Pulls source path (.bridged adb)
        [directory path (.ok ()), pull adb source path limit (.exited r)] (.ok 1)
  | copied {adb limit r} : r.code = 0 →
      Pulls source path (.bridged adb)
        [directory path (.ok ()), pull adb source path limit (.exited r), line (pulledLine path)]
        (.ok 0)

section Bridge

variable {adb : Adb} {arguments : List String} {timeout : Option Binary64} {check : Bool}

/-- A bridge that has no time limit for a command of its own runs nothing. -/
theorem run_of_no_limit {fault : Fault} (h : adb.limit timeout = .error fault) :
    adb.run arguments timeout check = (adb.announce arguments).bind fun _ => .fail fault := by
  simp only [Adb.run, h]
  rfl

/-- A bridge runs one process for a command of its own. -/
theorem run_of_limit {limit : Option Binary64} (h : adb.limit timeout = .ok limit) :
    adb.run arguments timeout check = (adb.announce arguments).bind fun _ =>
      (Host.runProcess (adb.process none arguments limit)).bind fun outcome =>
        ofExcept (adb.conclude (adb.process none arguments limit) check outcome) := by
  simp only [Adb.run, h]
  rfl

end Bridge

/-- A process that was run to its end has a result, if its success is not asked for. -/
theorem conclude_exited (adb : Adb) (call : ProcessCall) (r : ProcessResult) :
    adb.conclude call false (.exited r) = .ok ⟨call.arguments, r.output, r.errors, r.code⟩ := rfl

/-- A process that was not has none. -/
theorem conclude_not_exited (adb : Adb) (call : ProcessCall) {outcome : ProcessOutcome}
    (h : ∀ r, outcome ≠ .exited r) : ∃ fault, adb.conclude call false outcome = .error fault := by
  cases outcome with
  | exited r => exact absurd rfl (h r)
  | timedOut => exact ⟨_, rfl⟩
  | refused number message => exact ⟨_, rfl⟩
  | failed fault => cases fault <;> exact ⟨_, rfl⟩

/-- What is made of a copy that was run. -/
def pullEnd (path : HostPath) (result : AdbResult) : Host Nat :=
  if result.ok then (Host.print (pulledLine path)).bind fun _ => .done 0
  else (say .error ("adb pull failed: " ++ Text.strip result.printed)).bind fun _ => .done 1

theorem pullEnd_mayGo {path : HostPath} {result : AdbResult} {es : List HostDeed}
    {r : Except Fault Nat} (h : (pullEnd path result).MayGo es r) :
    (result.code = 0 ∧ es = [line (pulledLine path)] ∧ r = .ok 0) ∨
      (result.code ≠ 0 ∧ es = [] ∧ r = .ok 1) := by
  unfold pullEnd at h
  split at h
  · next hok =>
    obtain ⟨_, _, rfl, rfl, rfl⟩ := h
    exact Or.inl ⟨of_decide_eq_true hok, rfl, rfl⟩
  · next hok =>
    obtain ⟨rfl, rfl⟩ := h
    exact Or.inr ⟨fun hcode => hok (decide_eq_true hcode), rfl, rfl⟩

/-- **The copy of a record** goes in one of these ways. -/
theorem pullRecord_mayGo {device : Device} {source : String} {path : HostPath}
    {es : List HostDeed} {r : Except Fault Nat}
    (h : (pullRecord device source path).MayGo es r) : Pulls source path device es r := by
  cases device with
  | given =>
    obtain ⟨rfl, rfl⟩ := h
    exact .unbridged
  | bridged adb =>
    obtain ⟨made, rest, rfl, h⟩ := h
    cases made with
    | error fault =>
      obtain ⟨rfl, rfl⟩ := h
      exact .noDirectory
    | ok _ =>
      change ((adb.run ["pull", source, path.text] none false).bind (pullEnd path)).MayGo rest r at h
      cases hl : adb.limit none with
      | error fault =>
        rw [run_of_no_limit hl] at h
        obtain ⟨rfl, rfl⟩ := h
        exact .noLimit hl
      | ok limit =>
        rw [run_of_limit hl] at h
        obtain ⟨outcome, rest, rfl, h⟩ := h
        change ((ofExcept (adb.conclude (pullProcess adb source path limit) false outcome)).bind
          (pullEnd path)).MayGo rest r at h
        by_cases hexit : ∃ left, outcome = .exited left
        · obtain ⟨left, rfl⟩ := hexit
          rw [conclude_exited] at h
          rcases pullEnd_mayGo h with ⟨hcode, rfl, rfl⟩ | ⟨hcode, rfl, rfl⟩
          · exact .copied hcode
          · exact .refused hcode
        · have hnot : ∀ left, outcome ≠ .exited left := fun left hleft => hexit ⟨left, hleft⟩
          obtain ⟨fault, hfault⟩ := conclude_not_exited adb (pullProcess adb source path limit) hnot
          rw [hfault] at h
          obtain ⟨rfl, rfl⟩ := h
          exact .broken hnot hfault

/-- **How a record is handed over:** the user is told, and it is copied if that is wanted. -/
inductive HandsOver (device : Device) (request : RecordRequest) :
    List HostDeed → Except Fault Nat → Prop
  | told : request.pull = none →
      HandsOver device request [line (wroteLine request.destination)] (.ok 0)
  | pulled {path es r} : request.pull = some path → Pulls request.destination path device es r →
      HandsOver device request (line (wroteLine request.destination) :: es) r

/-- Hands a record over: the end of a recording. -/
def handOver (device : Device) (request : RecordRequest) : Host Nat := do
  Host.print (wroteLine request.destination)
  match request.pull with
  | none => return 0
  | some path => pullRecord device request.destination path

theorem handOver_mayGo {device : Device} {request : RecordRequest} {es : List HostDeed}
    {r : Except Fault Nat} (h : (handOver device request).MayGo es r) :
    HandsOver device request es r := by
  obtain ⟨_, rest, rfl, h⟩ := h
  change (match request.pull with
    | none => .done 0
    | some path => pullRecord device request.destination path : Host Nat).MayGo rest r at h
  cases hpull : request.pull with
  | none =>
    rw [hpull] at h
    obtain ⟨rfl, rfl⟩ := h
    exact .told hpull
  | some path =>
    rw [hpull] at h
    exact .pulled hpull (pullRecord_mayGo h)

/-! ## 3. The run by its parts -/

/-- A recording to be made: on which device of which host, with which settings and for what. -/
structure Recording (σ : Type) where
  host : World HostCall HostAnswer σ
  state : σ
  config : SamplerConfig
  device : Device
  request : RecordRequest

namespace Recording

variable {σ : Type} (m : Recording σ)

/-- The run of the recording. -/
def run : Outcome HostCall HostAnswer σ Nat :=
  ((Command.record m.request).run m.config m.device).run m.host m.state

/-- The start of the sampler. -/
def start : Outcome HostCall HostAnswer σ (Option Launch × Except Fault Bool) :=
  (m.device.carryOut
    (startCollecting m.config m.request.subcommand m.request.arguments)).run m.host m.state

/-- The sampling after the start. -/
def sampling : Outcome HostCall HostAnswer σ Unit :=
  (sample m.request.duration).run m.host m.start.world

/-- The stop after the sampling, with the move of the record. -/
def stop : Outcome HostCall HostAnswer σ Bool :=
  (m.device.carryOut (stopCollecting m.config m.request.destination)).run m.host m.sampling.world

/-- The handing over after the stop. -/
def handingOver : Outcome HostCall HostAnswer σ Nat :=
  (CommandLine.handOver m.device m.request).run m.host m.stop.world

/-- The start succeeded. -/
def Started : Prop := ∃ launch, m.start.result = .ok (launch, .ok true)

/-- The start and the stop succeeded. -/
def Kept : Prop := m.Started ∧ m.stop.result = .ok true

/-- What follows the start. -/
def afterStart : Option Launch × Except Fault Bool → Host Nat
  | (_, .error fault) => .fail fault
  | (_, .ok false) => .done 1
  | (_, .ok true) => (sample m.request.duration).bind fun _ =>
    keepRecord m.config m.device m.request

/-- What follows the stop. -/
def afterStop (kept : Bool) : Host Nat :=
  if kept then CommandLine.handOver m.device m.request else .done 1

theorem run_eq : m.run = m.start.andThen fun p s => (m.afterStart p).run m.host s := by
  have hrecord : (Command.record m.request).run m.config m.device =
      (m.device.carryOut
        (startCollecting m.config m.request.subcommand m.request.arguments)).bind
          m.afterStart := by
    show CommandLine.record m.config m.device m.request = _
    unfold CommandLine.record
    rw [bind_eq]
    congr 1
    funext p
    obtain ⟨launch, r⟩ := p
    match r with
    | .error fault => rfl
    | .ok false => rfl
    | .ok true => rfl
  unfold run start
  rw [hrecord, run_bind]

theorem keepRecord_run (s : σ) :
    (keepRecord m.config m.device m.request).run m.host s =
      ((m.device.carryOut (stopCollecting m.config m.request.destination)).run m.host s).andThen
        fun kept s' => (m.afterStop kept).run m.host s' :=
  run_bind m.host (m.device.carryOut (stopCollecting m.config m.request.destination)) m.afterStop s

/-- **A start that fails is all of the run.** -/
theorem run_of_not_started (h : ¬ m.Started) :
    m.run.result = (m.start.result.bind fun p => p.2.map fun _ => 1) ∧
      m.run.events = m.start.events := by
  rw [m.run_eq]
  unfold Outcome.andThen
  cases hr : m.start.result with
  | error fault => exact ⟨rfl, rfl⟩
  | ok p =>
    obtain ⟨launch, r⟩ := p
    match r with
    | .ok true => exact absurd ⟨launch, hr⟩ h
    | .ok false => simp [afterStart, Dialog.run, Except.bind, Except.map]
    | .error fault => simp [afterStart, Dialog.run, Except.bind, Except.map]

/-- Sampling always goes on to its end. -/
theorem sampling_result : m.sampling.result = .ok () :=
  (sample_mayGo (run_mayGo m.host (sample m.request.duration) m.start.world)).2

/-- After a start that succeeded come the sampling, the stop, and what follows the stop. -/
theorem run_of_started (h : m.Started) :
    m.run.result =
        (m.stop.andThen fun kept s => (m.afterStop kept).run m.host s).result ∧
      m.run.events = m.start.events ++ (m.sampling.events ++
        (m.stop.andThen fun kept s => (m.afterStop kept).run m.host s).events) := by
  obtain ⟨launch, hr⟩ := h
  have hafter : (m.afterStart (launch, .ok true)).run m.host m.start.world =
      m.sampling.andThen fun _ s => (keepRecord m.config m.device m.request).run m.host s :=
    run_bind m.host (sample m.request.duration) _ m.start.world
  rw [m.run_eq]
  unfold Outcome.andThen at hafter ⊢
  rw [hr]
  rw [m.sampling_result] at hafter
  dsimp only at hafter ⊢
  rw [hafter, m.keepRecord_run]
  exact ⟨rfl, rfl⟩

/-- **A stop that fails is the end of the run.** -/
theorem run_of_not_kept (hs : m.Started) (h : ¬ m.Kept) :
    m.run.result = m.stop.result.map (fun _ => 1) ∧
      m.run.events = m.start.events ++ (m.sampling.events ++ m.stop.events) := by
  obtain ⟨hresult, hevents⟩ := m.run_of_started hs
  rw [hresult, hevents]
  unfold Outcome.andThen
  cases hr : m.stop.result with
  | error fault => exact ⟨rfl, rfl⟩
  | ok kept =>
    cases kept with
    | true => exact absurd ⟨hs, hr⟩ h
    | false => simp [afterStop, Dialog.run, Except.map]

/-- **A record that was kept is handed over.** -/
theorem run_of_kept (h : m.Kept) :
    m.run.result = m.handingOver.result ∧
      m.run.events = m.start.events ++ (m.sampling.events ++
        (m.stop.events ++ m.handingOver.events)) := by
  obtain ⟨hresult, hevents⟩ := m.run_of_started h.1
  rw [hresult, hevents]
  unfold Outcome.andThen
  rw [h.2]
  exact ⟨rfl, rfl⟩

/-- The deeds of the start are those of a start on the device. -/
theorem exists_starts : ∃ es, Starts m.config m.request.subcommand m.request.arguments es
      m.start.result ∧ m.device.Carried es (deeds m.start.events) := by
  obtain ⟨es, hgo, hcarried⟩ := exists_carried m.host m.device
    (startCollecting m.config m.request.subcommand m.request.arguments) m.state
  exact ⟨es, startCollecting_mayGo hgo, hcarried⟩

/-- The deeds of the stop are those of the end of a session on the device. -/
theorem exists_collects : ∃ es, Collects m.config m.request.destination es m.stop.result ∧
    m.device.Carried es (deeds m.stop.events) := by
  obtain ⟨es, hgo, hcarried⟩ := exists_carried m.host m.device
    (stopCollecting m.config m.request.destination) m.sampling.world
  exact ⟨es, stopCollecting_mayGo hgo, hcarried⟩

theorem handingOver_handsOver :
    HandsOver m.device m.request (deeds m.handingOver.events) m.handingOver.result :=
  handOver_mayGo (run_mayGo m.host _ m.stop.world)

/-! ## 4. The copy of the record -/

/-- **The copy of the record ended so:** it was wanted, and the bridge ran it. -/
def PullEnded (outcome : ProcessOutcome) : Prop :=
  ∃ adb path limit, m.device = .bridged adb ∧ m.request.pull = some path ∧
    pull adb m.request.destination path limit outcome ∈ m.run.events

/-- The record was copied. -/
def Pulled : Prop := ∃ r, r.code = 0 ∧ m.PullEnded (.exited r)

/-- The copy was not run to its end. -/
def PullBroke : Prop := ∃ outcome, (∀ r, outcome ≠ .exited r) ∧ m.PullEnded outcome

end Recording

/-- A session runs processes for its commands only. -/
theorem purpose_of_carried {device : Device} {es : List Deed} {fs : List HostDeed}
    (h : device.Carried es fs) {call : ProcessCall} {outcome : ProcessOutcome}
    (hmem : .called (.process call) outcome ∈ fs) : call.purpose ≠ none := by
  unfold Device.Carried at h
  induction h with
  | nil => exact absurd hmem List.not_mem_nil
  | slept _ ih =>
    rcases List.mem_cons.1 hmem with hmem | hmem
    · cases hmem
    · exact ih hmem
  | called hserves _ ih =>
    rcases List.mem_append.1 hmem with hmem | hmem
    · cases hserves with
      | served he =>
        cases he with
        | given => cases List.mem_singleton.1 hmem
        | bridged =>
          cases List.mem_singleton.1 hmem
          exact Option.some_ne_none _
      | refused => exact absurd hmem List.not_mem_nil
    · exact ih hmem
  | spawned hstarts _ ih =>
    rcases List.mem_append.1 hmem with hmem | hmem
    · cases hstarts with
      | launched he => cases he <;> cases List.mem_singleton.1 hmem
      | refused => exact absurd hmem List.not_mem_nil
    · exact ih hmem

/-- The process of a deed and its end, if the deed is one. -/
def process? : HostDeed → Option (ProcessCall × ProcessOutcome)
  | .called (.process c) outcome => some (c, outcome)
  | _ => none

theorem process?_eq_some {e : HostDeed} {call : ProcessCall} {outcome : ProcessOutcome} :
    process? e = some (call, outcome) ↔ e = .called (.process call) outcome := by
  constructor
  · intro h
    unfold process? at h
    split at h
    · cases h
      rfl
    · cases h
  · rintro rfl
    rfl

/-- **A handing over runs one process at most,** the copy. -/
theorem HandsOver.outcome_eq {device : Device} {request : RecordRequest} {es : List HostDeed}
    {r : Except Fault Nat} (h : HandsOver device request es r) {call call' : ProcessCall}
    {outcome outcome' : ProcessOutcome} (hmem : .called (.process call) outcome ∈ es)
    (hmem' : .called (.process call') outcome' ∈ es) : outcome = outcome' := by
  have hone : es.filterMap process? = [] ∨ ∃ p, es.filterMap process? = [p] := by
    cases h with
    | told => exact Or.inl rfl
    | pulled _ hp =>
      cases hp with
      | unbridged | noDirectory | noLimit => exact Or.inl rfl
      | broken | refused | copied => exact Or.inr ⟨_, rfl⟩
  have hp : (call, outcome) ∈ es.filterMap process? :=
    List.mem_filterMap.2 ⟨_, hmem, process?_eq_some.2 rfl⟩
  have hp' : (call', outcome') ∈ es.filterMap process? :=
    List.mem_filterMap.2 ⟨_, hmem', process?_eq_some.2 rfl⟩
  rcases hone with hnone | ⟨p, hone⟩
  · rw [hnone] at hp
    exact absurd hp List.not_mem_nil
  · rw [hone] at hp hp'
    exact congrArg Prod.snd ((List.mem_singleton.1 hp).trans (List.mem_singleton.1 hp').symm)

namespace Recording

variable {σ : Type} (m : Recording σ)

/-- Up to the stop, the only processes are those of commands. -/
theorem not_mem_before_handingOver {c : ProcessCall} (hc : c.purpose = none)
    (outcome : ProcessOutcome) :
    .called (.process c) outcome ∉ m.start.events ++ (m.sampling.events ++ m.stop.events) := by
  intro hmem
  rcases List.mem_append.1 hmem with hmem | hmem
  · obtain ⟨es, -, hcarried⟩ := m.exists_starts
    exact purpose_of_carried hcarried (mem_deeds.2 ⟨hmem, rfl⟩) hc
  · rcases List.mem_append.1 hmem with hmem | hmem
    · obtain ⟨interrupted, hes⟩ :=
        (sample_mayGo (run_mayGo m.host (sample m.request.duration) m.start.world)).1
      have hdeed := mem_deeds.2 ⟨hmem, rfl⟩
      unfold sampling at hdeed
      rw [hes] at hdeed
      cases List.mem_singleton.1 hdeed
    · obtain ⟨es, -, hcarried⟩ := m.exists_collects
      exact purpose_of_carried hcarried (mem_deeds.2 ⟨hmem, rfl⟩) hc

/-- **A process that is no command of a session is run by the handing over.** -/
theorem mem_run_iff {c : ProcessCall} (hc : c.purpose = none) {outcome : ProcessOutcome} :
    .called (.process c) outcome ∈ m.run.events ↔
      m.Kept ∧ .called (.process c) outcome ∈ deeds m.handingOver.events := by
  have hbefore := m.not_mem_before_handingOver hc outcome
  by_cases hs : m.Started
  · by_cases hk : m.Kept
    · rw [(m.run_of_kept hk).2, ← List.append_assoc m.sampling.events, ← List.append_assoc,
        List.mem_append, or_iff_right hbefore, mem_deeds]
      exact ⟨fun h => ⟨hk, h, rfl⟩, fun h => h.2.1⟩
    · rw [(m.run_of_not_kept hs hk).2]
      exact iff_of_false hbefore fun h => hk h.1
  · rw [(m.run_of_not_started hs).2]
    exact iff_of_false (fun h => hbefore (List.mem_append_left _ h)) fun h => hs h.1.1

/-- **The copy ends once.** -/
theorem PullEnded.unique {m : Recording σ} {outcome outcome' : ProcessOutcome}
    (h : m.PullEnded outcome) (h' : m.PullEnded outcome') : outcome = outcome' := by
  obtain ⟨adb, path, limit, -, -, hpull⟩ := h
  obtain ⟨adb', path', limit', -, -, hpull'⟩ := h'
  exact m.handingOver_handsOver.outcome_eq ((m.mem_run_iff rfl).1 hpull).2
    ((m.mem_run_iff rfl).1 hpull').2

theorem printed_start : printed m.start.events = [] := by
  obtain ⟨es, -, hcarried⟩ := m.exists_starts
  rw [← printed_deeds, printed_of_carried hcarried]

theorem printed_sampling : printed m.sampling.events = [] := by
  obtain ⟨interrupted, hes⟩ :=
    (sample_mayGo (run_mayGo m.host (sample m.request.duration) m.start.world)).1
  rw [← printed_deeds]
  unfold sampling
  rw [hes]
  rfl

theorem printed_stop : printed m.stop.events = [] := by
  obtain ⟨es, -, hcarried⟩ := m.exists_collects
  rw [← printed_deeds, printed_of_carried hcarried]

/-- **Only the handing over prints.** -/
theorem printed_of_kept (hk : m.Kept) :
    printed m.run.events = printed (deeds m.handingOver.events) := by
  rw [(m.run_of_kept hk).2, printed_append, printed_append, printed_append, m.printed_start,
    m.printed_sampling, m.printed_stop, printed_deeds]
  rfl

theorem printed_of_not_kept (hk : ¬ m.Kept) : printed m.run.events = [] := by
  by_cases hs : m.Started
  · rw [(m.run_of_not_kept hs hk).2, printed_append, printed_append, m.printed_start,
      m.printed_sampling, m.printed_stop]
    rfl
  · rw [(m.run_of_not_started hs).2, m.printed_start]

/-- **How a record that was kept is delivered,** with the lines that are printed and the end of
the run. -/
inductive Delivered : List String → Except Fault Nat → Prop
  /-- It stays on the device. -/
  | left : m.request.pull = none → Delivered [wroteLine m.request.destination] (.ok 0)
  | unbridged : m.request.pull ≠ none → m.device = .given →
      Delivered [wroteLine m.request.destination] (.ok 1)
  | noDirectory {path fault} : m.request.pull = some path → (∀ outcome, ¬ m.PullEnded outcome) →
      directory path (.error fault) ∈ m.run.events →
      Delivered [wroteLine m.request.destination] (.error fault)
  | noLimit {adb fault} : m.request.pull ≠ none → (∀ outcome, ¬ m.PullEnded outcome) →
      m.device = .bridged adb → adb.limit none = .error fault →
      Delivered [wroteLine m.request.destination] (.error fault)
  | broken {adb c outcome fault} : m.PullEnded outcome → (∀ r, outcome ≠ .exited r) →
      .called (.process c) outcome ∈ m.run.events → Adb.conclude adb c false outcome = .error fault →
      Delivered [wroteLine m.request.destination] (.error fault)
  | refused {r} : m.PullEnded (.exited r) → r.code ≠ 0 →
      Delivered [wroteLine m.request.destination] (.ok 1)
  | copied {path r} : m.PullEnded (.exited r) → r.code = 0 → m.request.pull = some path →
      Delivered [wroteLine m.request.destination, pulledLine path] (.ok 0)

/-- **A record that was kept is delivered in one of these ways.** -/
theorem delivered_of_kept (hk : m.Kept) : m.Delivered (printed m.run.events) m.run.result := by
  obtain ⟨hresult, hevents⟩ := m.run_of_kept hk
  have hmem : ∀ {e}, e ∈ deeds m.handingOver.events → e ∈ m.run.events := by
    intro e he
    rw [hevents]
    exact List.mem_append_right _ (List.mem_append_right _ (List.mem_append_right _
      (mem_deeds.1 he).1))
  -- a copy that ended is among the deeds of the handing over
  have hended : ∀ {outcome}, m.PullEnded outcome → ∃ c,
      .called (.process c) outcome ∈ deeds m.handingOver.events := by
    rintro outcome ⟨adb, path, limit, -, -, hpull⟩
    exact ⟨_, ((m.mem_run_iff rfl).1 hpull).2⟩
  have hnone : (deeds m.handingOver.events).filterMap process? = [] →
      ∀ outcome, ¬ m.PullEnded outcome := by
    intro hnil outcome h
    obtain ⟨c, hc⟩ := hended h
    have hp := List.mem_filterMap.2 ⟨_, hc, process?_eq_some.2 rfl⟩
    rw [hnil] at hp
    exact absurd hp List.not_mem_nil
  have hover := m.handingOver_handsOver
  rw [m.printed_of_kept hk, hresult]
  generalize deeds m.handingOver.events = es at hover hmem hnone
  generalize m.handingOver.result = r at hover
  cases hover with
  | told hpull => exact .left hpull
  | @pulled path es r hpull hp =>
    have hwanted : m.request.pull ≠ none := by
      rw [hpull]
      exact Option.some_ne_none path
    generalize hdevice : m.device = device at hp
    cases hp with
    | unbridged => exact .unbridged hwanted hdevice
    | noDirectory =>
      exact .noDirectory hpull (hnone rfl) (hmem (List.mem_cons_of_mem _ List.mem_cons_self))
    | noLimit hl => exact .noLimit hwanted (hnone rfl) hdevice hl
    | broken hnot hfault =>
      have hcopy := hmem (List.mem_cons_of_mem _ (List.mem_cons_of_mem _ List.mem_cons_self))
      exact .broken ⟨_, _, _, hdevice, hpull, hcopy⟩ hnot hcopy hfault
    | refused hcode =>
      have hcopy := hmem (List.mem_cons_of_mem _ (List.mem_cons_of_mem _ List.mem_cons_self))
      exact .refused ⟨_, _, _, hdevice, hpull, hcopy⟩ hcode
    | copied hcode =>
      have hcopy := hmem (List.mem_cons_of_mem _ (List.mem_cons_of_mem _ List.mem_cons_self))
      exact .copied ⟨_, _, _, hdevice, hpull, hcopy⟩ hcode hpull

end Recording

end CommandLine
end DeviceSampling
