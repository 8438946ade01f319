/-
# Sessions through the bridge

What becomes of a process is up to the host, which may have it depend on all that was run before.
The same choices make a plain device: it gives the output, the errors and the exit code of the
process that was run, and cannot be reached where that ran out of time or was not started.  A
session cannot tell the bridge to such a host from such a device, whatever the device says when it
cannot be reached.

* `ProcessOracle`: what becomes of commands; `ProcessOracle.host`, `ProcessOracle.device`;
* `timeLimit`, `Adb.limit_eq`: the time limit of a command;
* `Mirrors`: a command of the session, as the host sees it;
* `Alike.throughBridge`: **sessions that are alike, one on the device and one through the bridge,
  stay alike;**
* `performSession_throughBridge`: **a session through the bridge is the session on the device.**
-/
import DeviceSampling.Proofs.DoubleRange
import DeviceSampling.Proofs.ErrorTexts
import DeviceSampling.Proofs.RecordEnds

namespace DeviceSampling

open Dialog CommandLine

/-! ## 1. The two worlds -/

/-- **What becomes of commands for the device,** as processes: of one that is waited for, and of one
that a worker makes and may be held up in; and whether a sleep is interrupted. -/
abbrev ProcessOracle (σ : Type) : Type := World String (fun _ => ProcessOutcome) σ

/-- What a plain device answers where a process ends so; `text` says why it cannot be reached. -/
def plainAnswer (text : ProcessOutcome → String) : ProcessOutcome → Except Fault ShellResult
  | .exited left => .ok ⟨left.output.getD "", left.errors.getD "", left.code⟩
  | outcome => .error (.unreachable (text outcome))

namespace ProcessOracle

variable {σ : Type}

/-- The processes of the oracle end as processes do. -/
structure EndsUsually (o : ProcessOracle σ) : Prop where
  calls : ∀ command s, Ends (o.call command s).1
  spawns : ∀ command s, Ends (o.spawn command s).1.2

/-- The host that runs processes so: what becomes of one is said by the last word of its line. -/
def host (o : ProcessOracle σ) : World HostCall HostAnswer σ where
  call
    | .process p, s => o.call (p.arguments.getLast?.getD "") s
    | .shell _, s => (Except.ok {}, s)
    | .makeDirectories _, s => (Except.ok (), s)
    | .print _, s => ((), s)
  spawn
    | .process p, s => o.spawn (p.arguments.getLast?.getD "") s
    | .shell _, s => ((false, Except.ok {}), s)
    | .makeDirectories _, s => ((false, Except.ok ()), s)
    | .print _, s => ((false, ()), s)
  sleep := o.sleep

/-- The plain device that answers so. -/
def device (o : ProcessOracle σ) (text : ShellCall → ProcessOutcome → String) :
    World ShellCall ShellAnswer σ where
  call c s := (plainAnswer (text c) (o.call c.command s).1, (o.call c.command s).2)
  spawn c s :=
    (((o.spawn c.command s).1.1, plainAnswer (text c) (o.spawn c.command s).1.2),
      (o.spawn c.command s).2)
  sleep := o.sleep

end ProcessOracle

/-! ## 2. Time limits -/

/-- **A time limit as it is handed on:** none if it is null or not positive. -/
def timeLimit : Option Quantity → Option Binary64
  | none => none
  | some q => if q.isNonPositive then none else q.toDouble?

theorem timeLimit_of_nonPositive {q : Quantity} (h : q.isNonPositive = true) :
    timeLimit (some q) = none := if_pos h

theorem isNonPositive_zero : (Quantity.double Binary64.zero).isNonPositive = true := by
  decide +kernel

/-- **The time limit of a command** is the one asked for, or else the bridge's own. -/
theorem Adb.limit_eq {a : Adb} (ha : ∀ q, a.timeout = some q → Convertible q)
    (asked : Option Binary64) :
    a.limit asked = .ok (timeLimit (asked.map Quantity.double <|> a.timeout)) := by
  obtain ⟨limit, hl⟩ := exists_limit ha asked
  rw [hl]
  unfold Adb.limit at hl
  cases hq : (asked.map Quantity.double <|> a.timeout) with
  | none =>
    rw [hq] at hl
    cases hl
    rfl
  | some q =>
    rw [hq] at hl
    dsimp only [timeLimit] at hl ⊢
    by_cases hn : q.isNonPositive = true
    · rw [if_pos hn] at hl ⊢
      cases hl
      rfl
    · rw [if_neg hn] at hl ⊢
      unfold Quantity.toDouble at hl
      cases hx : q.toDouble? with
      | none =>
        rw [hx] at hl
        cases hl
      | some x =>
        rw [hx] at hl
        cases hl
        rfl

/-- The time limit of a launch is the one configured: zero, which stands for none, is none, and the
double of an integer is positive if the integer is. -/
theorem timeLimit_launchTimeout {config : SamplerConfig} {timeout : Binary64}
    (h : Session.launchTimeout config = .ok timeout) :
    timeLimit (some (.double timeout)) = timeLimit config.recordTimeout := by
  unfold Session.launchTimeout at h
  cases hq : config.recordTimeout with
  | none =>
    rw [hq] at h
    dsimp only at h
    rw [Except.ok.injEq] at h
    have hnone := timeLimit_of_nonPositive isNonPositive_zero
    rwa [h] at hnone
  | some q =>
    rw [hq] at h
    cases q with
    | double x =>
      obtain rfl := Except.ok.inj h
      rfl
    | int n =>
      dsimp only [Quantity.toDouble, Quantity.toDouble?] at h
      cases hx : Binary64.ofInt? n with
      | none =>
        rw [hx] at h
        cases h
      | some x =>
        rw [hx] at h
        obtain rfl := Except.ok.inj h
        have hsign := Binary64.le_zero_of_ofInt? hx
        simp only [timeLimit, Quantity.isNonPositive, Quantity.toDouble?, hsign, hx]

/-! ## 3. What the host sees -/

/-- The words that name a device with a serial number. -/
def serialWords : Option String → List String
  | none => []
  | some serial => if serial = "" then [] else ["-s", serial]

/-- **The line of a command:** the program, the serial number if there is one, and the command as
one word. -/
def commandLine (a : Adb) (command : String) : List String :=
  a.path :: (serialWords a.serial ++ ["shell", command])

/-- The time limits that a session may ask for its start commands: the one configured, and those of
launches started apart. -/
inductive AskedLimit (config : SamplerConfig) (steps : List SessionStep) : Option Binary64 → Prop
  | configured {timeout} : Session.launchTimeout config = .ok timeout →
      AskedLimit config steps (some timeout)
  | given {asked} : .launch (.start asked) ∈ steps → AskedLimit config steps asked

/-- **The time limits of start commands:** the one configured, and for launches started apart their
own or else the bridge's. -/
inductive StartLimit (a : Adb) (config : SamplerConfig) (steps : List SessionStep) :
    Option Binary64 → Prop
  | configured : StartLimit a config steps (timeLimit config.recordTimeout)
  | given {asked} : .launch (.start asked) ∈ steps →
      StartLimit a config steps (timeLimit (asked.map Quantity.double <|> a.timeout))

theorem AskedLimit.startLimit {config : SamplerConfig} {steps : List SessionStep} {a : Adb}
    {asked : Option Binary64} (h : AskedLimit config steps asked) :
    StartLimit a config steps (timeLimit (asked.map Quantity.double <|> a.timeout)) := by
  cases h with
  | configured ht =>
    have hlimit := timeLimit_launchTimeout ht
    exact hlimit ▸ .configured
  | given hm => exact .given hm

/-- **A deed of a session on the device, and the same through the bridge.**  Sleeps are the same.  A
command is one process, whose end gives the answer; its time limit is the bridge's own but for the
start command. -/
inductive Mirrors (text : ShellCall → ProcessOutcome → String) (a : Adb)
    (limits : Option Binary64 → Prop) :
    Event ShellCall ShellAnswer → Event HostCall HostAnswer → Prop
  | slept (seconds : Binary64) (interrupted : Bool) :
      Mirrors text a limits (.slept seconds interrupted) (.slept seconds interrupted)
  | called {c p outcome} : c.purpose ≠ .start → p.arguments = commandLine a c.command →
      p.timeout = timeLimit a.timeout →
      Mirrors text a limits (.called c (plainAnswer (text c) outcome))
        (.called (.process p) outcome)
  | spawned {c p held outcome} : c.purpose = .start → p.arguments = commandLine a c.command →
      limits p.timeout →
      Mirrors text a limits (.spawned c held (plainAnswer (text c) outcome))
        (.spawned (.process p) held outcome)

section Commands

variable {σ : Type} {o : ProcessOracle σ} {a : Adb} {c : ShellCall} {limit : Option Binary64}

/-- The process of a command has its line. -/
theorem arguments_shellProcess :
    (Device.shellProcess a c limit).arguments = commandLine a c.command := by
  show a.base ++ ["shell", c.command] = commandLine a c.command
  unfold Adb.base commandLine serialWords
  cases a.serial with
  | none => rfl
  | some serial =>
    by_cases hs : serial = ""
    · simp [hs]
    · simp [hs]

/-- What becomes of the process of a command is what becomes of the command. -/
theorem getLast?_commandLine (a : Adb) (command : String) :
    (commandLine a command).getLast?.getD "" = command := by
  simp [commandLine, List.getLast?_cons]

/-- **The bridge makes of an end what the device does,** but for the text. -/
theorem sameAnswer_of_ends (a : Adb) (c : ShellCall) (limit : Option Binary64)
    (text : ProcessOutcome → String) {outcome : ProcessOutcome} (h : Ends outcome) :
    SameAnswer (plainAnswer text outcome) (Device.shellAnswer a c limit outcome) := by
  cases h with
  | exited left => exact .ran _
  | timedOut | refused | osFault | timeFault => exact .unreachable _ _

/-- A command that is waited for is one process, and goes on with what is made of its end. -/
theorem run_serve_bind {β : Type} (hl : a.limit c.timeout = .ok limit)
    (k : Except Fault ShellResult → Host β) (s : σ) :
    ∃ record, ((a.serve c).bind k).run o.host s =
      ((((k (Device.shellAnswer a c limit (o.call c.command s).1)).run o.host
        (o.call c.command s).2).after
          (.called (.process (Device.shellProcess a c limit)) (o.call c.command s).1)).after
            (.logged record)) := by
  have hserve : a.serve c = _ := Device.serve_of_limit hl
  have hcall : o.host.call (.process (Device.shellProcess a c limit)) s = o.call c.command s := by
    show o.call ((Device.shellProcess a c limit).arguments.getLast?.getD "") s = _
    rw [arguments_shellProcess, getLast?_commandLine]
  rw [hserve]
  refine ⟨_, congrArg (Outcome.after _) ?_⟩
  show (let (outcome, s') := o.host.call (.process (Device.shellProcess a c limit)) s
    ((k (Device.shellAnswer a c limit outcome)).run o.host s').after
      (.called (HostCall.process (Device.shellProcess a c limit)) outcome)) = _
  rw [hcall]

/-- A command that a worker makes is one process as well. -/
theorem run_serveWorker_bind {β : Type} (hl : a.limit c.timeout = .ok limit)
    (k : Bool × Except Fault ShellResult → Host β) (s : σ) :
    ∃ record, ((a.serveWorker c).bind k).run o.host s =
      ((((k ((o.spawn c.command s).1.1,
        Device.shellAnswer a c limit (o.spawn c.command s).1.2)).run o.host
        (o.spawn c.command s).2).after
          (.spawned (.process (Device.shellProcess a c limit)) (o.spawn c.command s).1.1
            (o.spawn c.command s).1.2)).after (.logged record)) := by
  have hserve : a.serveWorker c = _ := Device.serveWorker_of_limit hl
  have hspawn : o.host.spawn (.process (Device.shellProcess a c limit)) s =
      o.spawn c.command s := by
    show o.spawn ((Device.shellProcess a c limit).arguments.getLast?.getD "") s = _
    rw [arguments_shellProcess, getLast?_commandLine]
  rw [hserve]
  refine ⟨_, congrArg (Outcome.after _) ?_⟩
  show (let ((held, outcome), s') := o.host.spawn (.process (Device.shellProcess a c limit)) s
    ((k (held, Device.shellAnswer a c limit outcome)).run o.host s').after
      (.spawned (HostCall.process (Device.shellProcess a c limit)) held outcome)) = _
  rw [hspawn]

end Commands

/-! ## 4. Sessions -/

/-- **How the two runs of a session compare:** the same end, results for certain unless the session
may fail, the same world after it, and the same deeds one by one. -/
structure RunsAlike {σ α β : Type} (fails : Prop) (rel : α → β → Prop)
    (mirrors : Event ShellCall ShellAnswer → Event HostCall HostAnswer → Prop)
    (plain : Outcome ShellCall ShellAnswer σ α) (bridged : Outcome HostCall HostAnswer σ β) :
    Prop where
  result : SameEnd rel plain.result bridged.result
  sure : ¬ fails → ∃ r, plain.result = .ok r
  world : plain.world = bridged.world
  deeds : List.Forall₂ mirrors (deeds plain.events) (deeds bridged.events)

/-- **Alike sessions stay alike,** one on the device and one through the bridge. -/
theorem Alike.throughBridge {σ : Type} {o : ProcessOracle σ} (ho : o.EndsUsually)
    (text : ShellCall → ProcessOutcome → String) {a : Adb}
    (ha : ∀ q, a.timeout = some q → Convertible q) {fails : Prop}
    {asked limits : Option Binary64 → Prop}
    (hlimits : ∀ t, asked t → limits (timeLimit (t.map Quantity.double <|> a.timeout)))
    {α β : Type} {rel : α → β → Prop} {d : Session α} {d' : Session β}
    (h : Alike fails asked rel d d') (s : σ) :
    RunsAlike fails rel (Mirrors text a limits) (d.run (o.device text) s)
      ((d'.throughBridge a).run o.host s) := by
  -- on what the two sessions have in common: after each answer they are alike again
  induction h generalizing s with
  | done hab => exact ⟨.ok hab, fun _ => ⟨_, rfl⟩, rfl, .nil⟩
  | fail f hf => exact ⟨.error f, fun hn => absurd hf hn, rfl, .nil⟩
  | log _ ih =>
    obtain ⟨hresult, hsure, hworld, hdeeds⟩ := ih s
    exact ⟨hresult, hsure, hworld, hdeeds⟩
  | @sleep seconds next next' _ ih =>
    obtain ⟨hresult, hsure, hworld, hdeeds⟩ := ih (o.sleep seconds s).1 (o.sleep seconds s).2
    exact ⟨hresult, hsure, hworld, .cons (.slept seconds _) hdeeds⟩
  | @call c next next' hp ht _ ih =>
    have hl := a.limit_eq ha c.timeout
    generalize hlimit : timeLimit (c.timeout.map Quantity.double <|> a.timeout) = limit at hl
    obtain ⟨record, hrun⟩ := run_serve_bind (o := o) hl
      (fun r => (next' r).lower a.serve a.serveWorker) s
    have hsame := sameAnswer_of_ends a c limit (text c) (ho.calls c.command s)
    obtain ⟨hresult, hsure, hworld, hdeeds⟩ := ih _ _ hsame (o.call c.command s).2
    have hbridged : (Session.throughBridge a (.call c next')).run o.host s = _ := hrun
    rw [hbridged]
    refine ⟨hresult, hsure, hworld, .cons (.called hp arguments_shellProcess ?_) hdeeds⟩
    -- a command that asks for no time limit of its own has that of the bridge
    show limit = timeLimit a.timeout
    rw [← hlimit, ht]
    rfl
  | @spawn c next next' hp ht _ ih =>
    have hl := a.limit_eq ha c.timeout
    generalize hlimit : timeLimit (c.timeout.map Quantity.double <|> a.timeout) = limit at hl
    obtain ⟨record, hrun⟩ := run_serveWorker_bind (o := o) hl
      (fun r => (next' r.1 r.2).lower a.serve a.serveWorker) s
    have hsame := sameAnswer_of_ends a c limit (text c) (ho.spawns c.command s)
    obtain ⟨hresult, hsure, hworld, hdeeds⟩ := ih _ _ _ hsame (o.spawn c.command s).2
    have hbridged : (Session.throughBridge a (.spawn c next')).run o.host s = _ := hrun
    rw [hbridged]
    have hasked : limits limit := hlimit ▸ hlimits _ ht
    exact ⟨hresult, hsure, hworld, .cons (.spawned hp arguments_shellProcess hasked) hdeeds⟩

/-- A command that exits is a result, whatever its code. -/
theorem serve_of_exited {σ : Type} {o : ProcessOracle σ} {a : Adb}
    (ha : ∀ q, a.timeout = some q → Convertible q) {c : ShellCall} {left : ProcessResult} {s : σ}
    (h : (o.call c.command s).1 = .exited left) :
    ((a.serve c).run o.host s).result =
      .ok (.ok ⟨left.output.getD "", left.errors.getD "", left.code⟩) := by
  obtain ⟨record, hrun⟩ := run_serve_bind (o := o) (a.limit_eq ha c.timeout) done s
  rw [bind_done] at hrun
  rw [hrun, h]
  rfl

/-- **A session through the bridge is the session on a plain device.**  Let the processes of a host
end as processes do, and let a device give what they leave, or be out of reach where they leave
nothing.  Then a session has the same results on both, with the same launches, metrics and ends but
for the texts of faults, and sleeps alike.  Each command is one process with the command as the last
word of its line; it has the time limit of the bridge, and the start command that of the
configuration.  A command that exits is a result, whatever its code. -/
theorem performSession_throughBridge {σ : Type} {o : ProcessOracle σ} (ho : o.EndsUsually)
    (text : ShellCall → ProcessOutcome → String) {a : Adb}
    (ha : ∀ q, a.timeout = some q → Convertible q) (config : SamplerConfig)
    (steps : List SessionStep) (world : σ) :
    (∃ s results s' results',
      ((performSession config {} steps).run (o.device text) world).result = .ok (s, results) ∧
      (((performSession config {} steps).throughBridge a).run o.host world).result =
        .ok (s', results') ∧
      SameState s s' ∧ List.Forall₂ SameStepResult results results') ∧
    ((performSession config {} steps).run (o.device text) world).world =
      (((performSession config {} steps).throughBridge a).run o.host world).world ∧
    List.Forall₂ (Mirrors text a (StartLimit a config steps))
      (deeds ((performSession config {} steps).run (o.device text) world).events)
      (deeds (((performSession config {} steps).throughBridge a).run o.host world).events) ∧
    ∀ c left s, (o.call c.command s).1 = .exited left →
      ((a.serve c).run o.host s).result =
        .ok (.ok ⟨left.output.getD "", left.errors.getD "", left.code⟩) := by
  have hnew : SameState {} {} := ⟨.nil, rfl, rfl, rfl⟩
  have halike : Alike False (AskedLimit config steps) _ (performSession config {} steps)
      (performSession config {} steps) :=
    performSession_alike (fun _ => .configured) steps (fun _ => .given) hnew
  have hlimits : ∀ t, AskedLimit config steps t →
      StartLimit a config steps (timeLimit (t.map Quantity.double <|> a.timeout)) :=
    fun _ ht => ht.startLimit
  obtain ⟨hresult, hsure, hworld, hdeeds⟩ := halike.throughBridge ho text ha hlimits world
  refine ⟨?_, hworld, hdeeds, fun c left s h => serve_of_exited ha h⟩
  -- the session on the device has a result, so the same end through the bridge is one as well
  obtain ⟨⟨s, results⟩, hplain⟩ := hsure id
  generalize (Session.throughBridge a (performSession config {} steps)).run o.host world = bridged
    at hresult
  obtain ⟨result, events, after⟩ := bridged
  rw [hplain] at hresult
  cases hresult with
  | @ok x y hxy => exact ⟨s, results, y.1, y.2, hplain, rfl, hxy.1, hxy.2⟩

/-- A sampler whose start command runs out of time once it runs, and is then lost. -/
def lostOracle : ProcessOracle Nat where
  call _ n :=
    (match n with
      | 0 => .exited { code := 1 }
      | 2 => .exited { output := some "812\n" }
      | _ => .refused 2 "No such file or directory", n + 1)
  spawn _ n := ((true, .timedOut), n + 1)
  sleep _ n := (false, n)

theorem endsUsually_lostOracle : lostOracle.EndsUsually where
  calls command s := by
    simp only [lostOracle]
    split
    · exact .exited _
    · exact .exited _
    · exact .refused _ _
  spawns _ _ := .timedOut

/-- A start, after which the start command fails, and a stop that no longer reaches the device. -/
def lostSteps : List SessionStep :=
  [.operation (.startCollecting "record" "-g"), .launch .release, .operation .stopSampler]

/-- The four commands of such a session are four processes, and its launch is there at the end. -/
theorem performSession_throughBridge_lostOracle :
    lostOracle.EndsUsually ∧ (∀ q, ({} : Adb).timeout = some q → Convertible q) ∧
      ∃ s' results',
        (((performSession {} {} lostSteps).throughBridge {}).run lostOracle.host 0).result =
          .ok (s', results') ∧
        s'.launches.length = 1 ∧ results'.length = 3 ∧
        (deeds (((performSession {} {} lostSteps).throughBridge {}).run
          lostOracle.host 0).events).length = 4 := by
  obtain ⟨⟨s, results, s', results', hplain, hbridged, hs, hr⟩, -, hdeeds, -⟩ :=
    performSession_throughBridge endsUsually_lostOracle (fun _ _ => "out of reach")
      convertible_default {} lostSteps 0
  have hlengths : ((performSession {} {} lostSteps).run
      (lostOracle.device fun _ _ => "out of reach") 0).result.toOption.map
        (fun r => (r.1.launches.length, r.2.length)) = some (1, 3) := by decide +kernel
  have hcount : (deeds ((performSession {} {} lostSteps).run
      (lostOracle.device fun _ _ => "out of reach") 0).events).length = 4 := by decide +kernel
  rw [hplain] at hlengths
  obtain ⟨hlaunches, hresults⟩ := Prod.mk.inj (Option.some.inj hlengths)
  exact ⟨endsUsually_lostOracle, convertible_default, s', results', hbridged,
    hs.launches.length_eq ▸ hlaunches, hr.length_eq ▸ hresults, hdeeds.length_eq ▸ hcount⟩

end DeviceSampling
