/-
# How a recording ends

A recording makes its processes in many places: the checks and commands of the start and of the
stop, and the copy of the record.  The session deals with the failures of its own commands, and
what comes of them is an exit code.  The copy is the one process that the session does not make.

The clock of the host takes every sleep that is asked of it: the duration of the sampling, and the
delays of the waits for a start and a stop.  A clock that refuses a length (NaN, infinity, more than
it can count) is no world in the sense of `World.sleep`, and nothing is said of it.

* `Usual`: a host whose processes end as processes do, and nothing else stands in the way;
* `Usual.steady`: the bridge of such a host is steady;
* `run_endsWithCode`: **a recording through the bridge ends with an exit code**, unless its copy is
  not run to its end.
-/
import DeviceSampling.Proofs.RecordRuns
import DeviceSampling.Proofs.Starting

namespace DeviceSampling

open Dialog

/-! ## 1. Starts without a fault -/

namespace Session

variable {config : SamplerConfig}

/-- Clearing the way has a result if nothing disturbs it. -/
theorem exists_of_clears {es : List Deed} {r : Except Fault Bool} (h : Clears config es r)
    (hes : Undisturbed es) : ∃ b, r = .ok b := by
  cases h with
  | free => exact ⟨true, rfl⟩
  | stopped _ hs =>
    obtain ⟨b, hb, -⟩ := stopped_of_stops hs hes.tail
    exact ⟨b, hb⟩
  | failed ha =>
    obtain ⟨b, hb, -⟩ := checkEnd_of_foreseen hes.head
    rw [hb] at ha
    cases ha

/-- **A start has a result** if nothing disturbs it and its time limit is a double. -/
theorem exists_of_starts {subcommand arguments : String} {es : List Deed}
    {r : Except Fault (Option Launch × Except Fault Bool)} {timeout : Binary64}
    (h : Starts config subcommand arguments es r) (hes : Undisturbed es)
    (hlimit : LaunchLimit config timeout) : ∃ launch b, r = .ok (launch, .ok b) := by
  cases h with
  | notCleared hc _ =>
    obtain ⟨b, rfl⟩ := exists_of_clears hc hes
    exact ⟨none, b, rfl⟩
  | noLimit _ ht =>
    rw [launchTimeout_of_limit hlimit] at ht
    cases ht
  | launched _ _ hpoll =>
    obtain ⟨answers, b, -, rfl, -⟩ := exists_polled hpoll hes.right.tail
    exact ⟨_, b, rfl⟩

end Session

namespace CommandLine

open Session

/-! ## 2. Usual hosts -/

/-- **How a process usually ends:** it was run to its end, it ran out of time, or the system did
not start it. -/
inductive Ends : ProcessOutcome → Prop
  | exited (r : ProcessResult) : Ends (.exited r)
  | timedOut : Ends .timedOut
  | refused (number : Int) (message : String) : Ends (.refused number message)
  | osFault (message : String) : Ends (.failed (.os message))
  | timeFault (message : String) : Ends (.failed (.timedOut message))

/-- **A usual host:** processes end as they usually do, directories can be made, and every sleep, of
whatever length, comes to its end without an interruption by the user. -/
structure Usual {σ : Type} (w : World HostCall HostAnswer σ) : Prop where
  processes : ∀ c s, Ends (w.call (.process c) s).1
  directories : ∀ path s, (w.call (.makeDirectories path) s).1 = Except.ok ()
  sleeps : ∀ seconds s, (w.sleep seconds s).1 = false

/-- A process that ends as usual without being run to its end makes the device unreachable. -/
theorem unreachable_of_ends {adb : Adb} {c : ProcessCall} {outcome : ProcessOutcome} {fault : Fault}
    (h : Ends outcome) (hf : adb.conclude c false outcome = .error fault) :
    ∃ message, fault = .unreachable message := by
  cases h with
  | exited => cases hf
  | timedOut | refused | osFault | timeFault =>
    cases hf
    exact ⟨_, rfl⟩

/-- The number is a double, or can be made one. -/
def Convertible (q : Quantity) : Prop := ∃ x, q.toDouble? = some x

/-- A bridge with a convertible time limit has a limit for every command. -/
theorem exists_limit {adb : Adb} (h : ∀ q, adb.timeout = some q → Convertible q)
    (requested : Option Binary64) : ∃ limit, adb.limit requested = .ok limit := by
  have hconvertible : ∀ q, (requested.map Quantity.double <|> adb.timeout) = some q →
      Convertible q := by
    intro q hq
    cases requested with
    | none => exact h q hq
    | some x =>
      obtain rfl := Option.some.inj hq
      exact ⟨x, rfl⟩
  unfold Adb.limit
  cases hq : (requested.map Quantity.double <|> adb.timeout) with
  | none => exact ⟨none, rfl⟩
  | some q =>
    obtain ⟨x, hx⟩ := hconvertible q hq
    dsimp only
    split
    · exact ⟨none, rfl⟩
    · refine ⟨some x, ?_⟩
      unfold Quantity.toDouble
      rw [hx]
      rfl

/-- **The bridge of a usual host is steady.** -/
theorem Usual.steady {σ : Type} {w : World HostCall HostAnswer σ} (hw : Usual w) {adb : Adb}
    (h : ∀ q, adb.timeout = some q → Convertible q) : (Device.bridged adb).Steady w := by
  intro c s a ha f hf
  obtain ⟨limit, hl⟩ := exists_limit h c.timeout
  have hrun : (((Device.bridged adb).serve c).run w s).result =
      .ok (Device.shellAnswer adb c limit
        (w.call (.process (Device.shellProcess adb c limit)) s).1) := by
    rw [Device.serve_of_limit hl]
    rfl
  rw [hrun] at ha
  rw [← Except.ok.inj ha] at hf
  unfold Device.shellAnswer at hf
  cases hc : adb.conclude (Device.shellProcess adb c limit) false
      (w.call (.process (Device.shellProcess adb c limit)) s).1 with
  | ok result =>
    rw [hc] at hf
    cases hf
  | error fault =>
    rw [hc] at hf
    cases hf
    exact unreachable_of_ends (hw.processes _ _) hc

/-! ## 3. The end of a recording -/

namespace Recording

variable {σ : Type} (m : Recording σ) {adb : Adb}

section Bridged

variable (hdevice : m.device = .bridged adb) (hw : Usual m.host)
variable (hadb : ∀ q, adb.timeout = some q → Convertible q)

include hdevice hw hadb

/-- A start through the bridge has a result. -/
theorem start_result (hrecord : ∀ q, m.config.recordTimeout = some q → Convertible q) :
    ∃ launch b, m.start.result = .ok (launch, .ok b) := by
  have hsteady : m.device.Steady m.host := by
    rw [hdevice]
    exact hw.steady hadb
  have hlimit : ∃ timeout, LaunchLimit m.config timeout := by
    cases hq : m.config.recordTimeout with
    | none => exact ⟨_, .unlimited hq⟩
    | some q =>
      obtain ⟨x, hx⟩ := hrecord q hq
      exact ⟨x, .limited hq hx⟩
  obtain ⟨timeout, hlimit⟩ := hlimit
  obtain ⟨es, hstarts, hcarried⟩ := m.exists_starts
  exact exists_of_starts hstarts (hsteady.undisturbed hw.sleeps hcarried) hlimit

/-- A stop through the bridge has a result. -/
theorem stop_result : ∃ b, m.stop.result = .ok b := by
  have hsteady : m.device.Steady m.host := by
    rw [hdevice]
    exact hw.steady hadb
  obtain ⟨es, hcollects, hcarried⟩ := m.exists_collects
  obtain ⟨b, hb, -⟩ := collected_of_collects hcollects (hsteady.undisturbed hw.sleeps hcarried)
  exact ⟨b, hb⟩

/-- A record that was kept is delivered through the bridge, unless the copy breaks. -/
theorem delivered_ends {lines : List String} {r : Except Fault Nat} (h : m.Delivered lines r) :
    (¬ m.PullBroke ∧ (r = .ok 0 ∨ r = .ok 1)) ∨
      (m.PullBroke ∧ lines = [wroteLine m.request.destination] ∧
        ∃ message, r = .error (.unreachable message)) := by
  have hwhole : ∀ {left}, m.PullEnded (.exited left) → ¬ m.PullBroke := by
    rintro left h ⟨outcome, hnot, h'⟩
    exact hnot left (h'.unique h)
  cases h with
  | left hpull =>
    refine Or.inl ⟨?_, Or.inl rfl⟩
    rintro ⟨outcome, -, -, path, -, -, hpull', -⟩
    rw [hpull] at hpull'
    cases hpull'
  | unbridged _ hgiven =>
    rw [hgiven] at hdevice
    cases hdevice
  | noDirectory _ _ hmem =>
    obtain ⟨s, hs⟩ := exists_call_of_called hmem
    rw [hw.directories] at hs
    cases hs
  | noLimit _ _ hdevice' hl =>
    rw [hdevice] at hdevice'
    obtain rfl := Device.bridged.inj hdevice'
    obtain ⟨limit, hlimit⟩ := exists_limit hadb none
    rw [hlimit] at hl
    cases hl
  | broken hended hnot hmem hfault =>
    obtain ⟨s, rfl⟩ := exists_call_of_called hmem
    obtain ⟨message, rfl⟩ := unreachable_of_ends (hw.processes _ s) hfault
    exact Or.inr ⟨⟨_, hnot, hended⟩, rfl, message, rfl⟩
  | refused hended => exact Or.inl ⟨hwhole hended, Or.inr rfl⟩
  | copied hended => exact Or.inl ⟨hwhole hended, Or.inl rfl⟩

/-- **A recording through the bridge ends with an exit code, unless its copy breaks.**  Whatever
the processes leave, and whichever of them run out of time or cannot be run, a run on a usual host,
whose clock takes the duration and the delays of both waits, ends with 0 or 1.  The one exception is the process that copies the record: if that is not run to
its end, the record was kept and the user was told so, and still the run ends with the fault.  An
invocation that comes to this recording ends as it does. -/
theorem run_endsWithCode (hrecord : ∀ q, m.config.recordTimeout = some q → Convertible q) :
    (¬ m.PullBroke → m.run.result = .ok 0 ∨ m.run.result = .ok 1) ∧
    (m.PullBroke → m.Kept ∧ printed m.run.events = [wroteLine m.request.destination] ∧
      ∃ message, m.run.result = .error (.unreachable message)) ∧
    ∀ inv given files, Invocation.ComesTo inv given files m.config m.device (.record m.request) →
      (inv.run given files).run m.host m.state = exiting m.run := by
  refine ⟨fun hwhole => ?_, fun hbroke => ?_, fun inv given files h => h.run_eq m.host m.state⟩
  · by_cases hs : m.Started
    · by_cases hk : m.Kept
      · rcases m.delivered_ends hdevice hw hadb (m.delivered_of_kept hk) with h | h
        · exact h.2
        · exact absurd h.1 hwhole
      · obtain ⟨b, hb⟩ := m.stop_result hdevice hw hadb
        rw [(m.run_of_not_kept hs hk).1, hb]
        exact Or.inr rfl
    · obtain ⟨launch, b, hb⟩ := m.start_result hdevice hw hadb hrecord
      rw [(m.run_of_not_started hs).1, hb]
      exact Or.inr rfl
  · have hk : m.Kept := by
      obtain ⟨outcome, -, adb', path, limit, -, -, hmem⟩ := hbroke
      exact ((m.mem_run_iff rfl).1 hmem).1
    rcases m.delivered_ends hdevice hw hadb (m.delivered_of_kept hk) with h | h
    · exact absurd hbroke h.1
    · exact ⟨hk, h.2⟩

end Bridged

end Recording

/-- A host whose bridge reaches a device with a sampler that runs or not, as its state says; its
copies end so. -/
def copyingHost (copy : ProcessOutcome) : World HostCall HostAnswer Bool where
  call
    | .shell _, running => (Except.ok {}, running)
    | .process c, running =>
      match c.purpose with
      | none => (copy, running)
      | some .runningCheck =>
        (.exited (if running then { output := some "7 12\n" } else { code := 1 }), running)
      | some .interrupt => (.exited {}, false)
      | some _ => (.exited {}, running)
    | .makeDirectories _, running => (Except.ok (), running)
    | .print _, running => ((), running)
  spawn
    | .process _, _ => ((false, ProcessOutcome.exited {}), true)
    | .shell _, running => ((false, Except.ok {}), running)
    | .makeDirectories _, running => ((false, Except.ok ()), running)
    | .print _, running => ((false, ()), running)
  sleep _ running := (false, running)

theorem usual_copyingHost {copy : ProcessOutcome} (h : Ends copy) : Usual (copyingHost copy) := by
  refine ⟨fun c running => ?_, fun _ _ => rfl, fun _ _ => rfl⟩
  simp only [copyingHost]
  split
  · exact h
  · exact .exited _
  · exact .exited _
  · exact .exited _

/-- A recording of a second that is copied to the host. -/
def copiedRecording (copy : ProcessOutcome) : Recording Bool where
  host := copyingHost copy
  state := false
  config := {}
  device := .bridged {}
  request :=
    { destination := "/data/a.data", duration := .ofNat 1, pull := some (HostPath.ofText "run.data") }

theorem convertible_default : ∀ q, ({} : Adb).timeout = some q → Convertible q := by
  intro q hq
  obtain rfl := Option.some.inj hq
  exact ⟨_, rfl⟩

/-- A copy that the bridge refuses is told by the exit code. -/
theorem run_endsWithCode_refusedCopy :
    (copiedRecording (.exited { code := 1 })).device = .bridged {} ∧
      Usual (copiedRecording (.exited { code := 1 })).host ∧
      (∀ q, ({} : Adb).timeout = some q → Convertible q) ∧
      (∀ q, (copiedRecording (.exited { code := 1 })).config.recordTimeout = some q →
        Convertible q) ∧
      ¬ (copiedRecording (.exited { code := 1 })).PullBroke ∧
      (copiedRecording (.exited { code := 1 })).run.result = .ok 1 := by
  have husual : Usual (copiedRecording (.exited { code := 1 })).host :=
    usual_copyingHost (.exited _)
  have hrecord : ∀ q, (copiedRecording (.exited { code := 1 })).config.recordTimeout = some q →
      Convertible q := by
    intro q hq
    have hnone : (copiedRecording (.exited { code := 1 })).config.recordTimeout = none := rfl
    rw [hnone] at hq
    cases hq
  have hwhole : ¬ (copiedRecording (.exited { code := 1 })).PullBroke := by
    rintro ⟨outcome, hnot, adb, path, limit, -, -, hmem⟩
    obtain ⟨s, hs⟩ := exists_call_of_called hmem
    exact hnot _ hs.symm
  refine ⟨rfl, husual, convertible_default, hrecord, hwhole, ?_⟩
  rcases (copiedRecording (.exited { code := 1 })).run_endsWithCode rfl husual convertible_default
    hrecord |>.1 hwhole with h | h
  · exact absurd h (by decide +kernel)
  · exact h

/-- **A copy that runs out of time leaves the run without an exit code,** though the record was kept
and the host is as usual. -/
theorem run_withoutCode :
    Usual (copiedRecording .timedOut).host ∧
      (∀ q, ({} : Adb).timeout = some q → Convertible q) ∧
      (copiedRecording .timedOut).device = .bridged {} ∧
      (copiedRecording .timedOut).config.recordTimeout = none ∧
      (copiedRecording .timedOut).run.result = .error (.unreachable
        "adb command timed out after 30.0s: adb pull /data/a.data run.data") ∧
      ¬ ∃ code, (copiedRecording .timedOut).run.result = .ok code := by
  have hresult : (copiedRecording .timedOut).run.result = .error (.unreachable
      "adb command timed out after 30.0s: adb pull /data/a.data run.data") := by decide +kernel
  refine ⟨usual_copyingHost .timedOut, convertible_default, rfl, rfl, hresult, ?_⟩
  rintro ⟨code, hcode⟩
  rw [hresult] at hcode
  cases hcode

end CommandLine
end DeviceSampling
