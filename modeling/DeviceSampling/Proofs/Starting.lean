/-
# How a start goes

A start launches the sampler if none runs, or if the one that runs is stopped first, and then waits
for it.  On a reliable device the launch is decided by the first running check and the stop after
it; the result is decided by the running checks after the launch, and the launch itself has no say
in it, whatever becomes of its worker.

* `run_clearTheWay`: the way is cleared by one check and, if that is positive, a stop;
* `startCommand_ne`: no other command of a start reads like the start command;
* `startCollecting_launches`: **when a start launches, what it leaves, and how it ends.**
-/
import DeviceSampling.Proofs.Stopping

namespace DeviceSampling
namespace Session

open Dialog

variable {config : SamplerConfig}

/-! ## 1. Clearing the way -/

section Clearing

variable {σ : Type} (w : World ShellCall ShellAnswer σ) (world : σ)

/-- What the world answers to a running check, and the world after it. -/
def checkIn (config : SamplerConfig) : Except Fault ShellResult × σ :=
  w.call ⟨.runningCheck, config.runningCommand, none⟩ world

/-- A running check asks the world once. -/
theorem run_isRunning (config : SamplerConfig) :
    ((isRunning config).run w world).result = checkEnd (checkIn w world config).1 ∧
      ((isRunning config).run w world).world = (checkIn w world config).2 ∧
      deeds ((isRunning config).run w world).events =
        [check config (checkIn w world config).1] := by
  obtain ⟨a, hes, hr⟩ := isRunning_mayGo.1 (run_mayGo w (isRunning config) world)
  -- after its call a check only writes log records
  have hrun : (isRunning config).run w world =
      ((readRunning (checkIn w world config).1).run w (checkIn w world config).2).after
        (.called ⟨.runningCheck, config.runningCommand, none⟩ (checkIn w world config).1) := rfl
  have hdeeds : check config (checkIn w world config).1 ::
      deeds ((readRunning (checkIn w world config).1).run w (checkIn w world config).2).events =
        [check config a] := by
    rw [hrun] at hes
    exact hes
  obtain ⟨hhead, htail⟩ := List.cons.inj hdeeds
  have ha : (checkIn w world config).1 = a := eq_of_heq (Event.called.inj hhead).2
  rw [← ha] at hr hes
  refine ⟨hr, ?_, hes⟩
  rw [hrun]
  exact run_world_of_deeds_eq_nil htail

/-- **The way is cleared by one check,** and by a stop if the check is positive. -/
theorem run_clearTheWay (hw : Reliable w) (config : SamplerConfig) :
    (Positive (checkIn w world config).1 →
      ((clearTheWay config).run w world).result =
          ((stopSampler config).run w (checkIn w world config).2).result ∧
        deeds ((clearTheWay config).run w world).events = check config (checkIn w world config).1 ::
          deeds ((stopSampler config).run w (checkIn w world config).2).events) ∧
    (¬ Positive (checkIn w world config).1 →
      ((clearTheWay config).run w world).result = .ok true ∧
        deeds ((clearTheWay config).run w world).events =
          [check config (checkIn w world config).1]) := by
  obtain ⟨hresult, hworld, hdeeds⟩ := run_isRunning w world config
  obtain ⟨b, hb, hpos⟩ := checkEnd_of_foreseen (hw.answers _ world)
  have hrun : (clearTheWay config).run w world =
      (((isRunning config).run w world).andThen fun b s' =>
        ((if b then (say .info "Simpleperf is already running. Stopping simpleperf.").bind fun _ =>
            stopSampler config
          else .done true : Session Bool).run w s')).after
        (.logged ⟨.info, .session, "Cleanup simpleperf before starting."⟩) :=
    congrArg (Outcome.after _) (run_bind w (isRunning config) _ world)
  have hfirst : ((isRunning config).run w world).result = .ok b := hresult.trans hb
  unfold Outcome.andThen at hrun
  rw [hfirst] at hrun
  dsimp only at hrun
  rw [hworld] at hrun
  constructor
  · intro hp
    rw [hpos.2 hp] at hrun
    rw [hrun]
    refine ⟨rfl, ?_⟩
    show deeds (_ ++ _) = _
    rw [deeds_append, hdeeds]
    rfl
  · intro hp
    obtain rfl : b = false := Bool.eq_false_iff.2 (mt hpos.1 hp)
    rw [hrun]
    refine ⟨rfl, ?_⟩
    show deeds (_ ++ _) = _
    rw [deeds_append, hdeeds]
    rfl

end Clearing

/-! ## 2. The text of the start command -/

/-- Trimming takes no character away that is not blank. -/
theorem count_trim {c : Char} (hc : Text.isBlank c = false) (cs : List Char) :
    (Text.trim cs).count c = cs.count c := by
  obtain ⟨lead, trail, he, hl, ht, -⟩ := Text.exists_trim cs
  have hnot : ∀ {bs : List Char}, Text.AllBlank bs → bs.count c = 0 := by
    intro bs hb
    refine List.count_eq_zero_of_not_mem fun hm => ?_
    rw [hb c hm] at hc
    cases hc
  have hcount := congrArg (List.count c) he
  rw [List.count_append, List.count_append, hnot hl, hnot ht] at hcount
  omega

/-- A name holds no character more often than its path. -/
theorem count_baseName_le (c : Char) (path : String) :
    (Shell.baseName path).toList.count c ≤ path.toList.count c := by
  have hs : (path.toList.reverse.takeWhile (· ≠ '/')).reverse.Sublist path.toList := by
    have := (List.takeWhile_sublist (l := path.toList.reverse) (· ≠ '/')).reverse
    rwa [List.reverse_reverse] at this
  unfold Shell.baseName Shell.baseNameChars
  rw [String.toList_ofList]
  exact hs.count_le c

/-- **The start command reads like no command on the sampler's name** that is written without some
character of the output flag: the binary holds that character as often as the name at least, and
the flag holds it once more. -/
theorem startCommand_ne {c : Char} (hc : c ∈ " -o ".toList) (hb : Text.isBlank c = false)
    {front : String} (hf : c ∉ front.toList) (subcommand arguments : String) :
    config.startCommand subcommand arguments ≠ front ++ config.processName := by
  intro h
  have hcount := congrArg (fun s : String => s.toList.count c) h
  have hname := count_baseName_le c config.binary
  have hflag : 0 < " -o ".toList.count c := List.count_pos_iff.2 hc
  simp only [SamplerConfig.startCommand, Text.strip, String.toList_ofList, count_trim hb,
    String.toList_append, List.count_append, List.count_eq_zero_of_not_mem hf,
    SamplerConfig.processName] at hcount
  omega

theorem startCommand_ne_runningCommand (subcommand arguments : String) :
    config.startCommand subcommand arguments ≠ config.runningCommand :=
  startCommand_ne (c := '-') (by decide) (by decide) (by decide) subcommand arguments

theorem startCommand_ne_interruptCommand (subcommand arguments : String) :
    config.startCommand subcommand arguments ≠ config.interruptCommand :=
  startCommand_ne (c := 'o') (by decide) (by decide) (by decide) subcommand arguments

/-- The commands that are issued to start the sampler, or that read like the start command. -/
def starts (config : SamplerConfig) (subcommand arguments : String) (is : List Issued) :
    List Issued :=
  is.filter fun i =>
    i.call.purpose = .start || i.call.command = config.startCommand subcommand arguments

theorem starts_append (subcommand arguments : String) (is js : List Issued) :
    starts config subcommand arguments (is ++ js) =
      starts config subcommand arguments is ++ starts config subcommand arguments js :=
  List.filter_append is js

/-- Running checks and interrupts start nothing. -/
theorem starts_eq_nil {subcommand arguments : String} {is : List Issued}
    (h : ∀ i ∈ is, i.IsCheck config ∨ i.IsInterrupt config) :
    starts config subcommand arguments is = [] := by
  refine List.filter_eq_nil_iff.2 fun i hi => ?_
  rcases h i hi with hi | hi
  · rw [hi]
    simpa using (startCommand_ne_runningCommand subcommand arguments).symm
  · rw [hi]
    simpa using (startCommand_ne_interruptCommand subcommand arguments).symm

/-- A poll issues running checks only. -/
theorem isCheck_of_polled {delay : Binary64} : ∀ {answers : List (Except Fault ShellResult)},
    ∀ i ∈ commands (polled config delay answers), i.IsCheck config
  | [], i, hi => absurd hi List.not_mem_nil
  | [a], i, hi => by
    rw [List.mem_singleton.1 hi]
    exact isCheck_check a
  | a :: b :: rest, i, hi => by
    rw [polled_cons delay a (List.cons_ne_nil b rest)] at hi
    rcases List.mem_cons.1 hi with rfl | hi
    · exact isCheck_check a
    · exact isCheck_of_polled i hi

/-- A stop issues running checks and interrupts only. -/
theorem isCheck_or_isInterrupt_of_stopped {es : List Deed} {b : Bool} (h : Stopped config es b) :
    ∀ i ∈ commands es, i.IsCheck config ∨ i.IsInterrupt config := by
  cases h with
  | notRunning =>
    intro i hi
    rw [List.mem_singleton.1 hi]
    exact Or.inl rfl
  | refused =>
    intro i hi
    rcases List.mem_cons.1 hi with rfl | hi
    · exact Or.inl rfl
    · rw [List.mem_singleton.1 hi]
      exact Or.inr rfl
  | waited =>
    intro i hi
    rcases List.mem_cons.1 hi with rfl | hi
    · exact Or.inl rfl
    · rcases List.mem_cons.1 hi with rfl | hi
      · exact Or.inr rfl
      · exact Or.inl (isCheck_of_polled i hi)

/-- A stop sleeps as often as its retries allow, and no longer than its delay. -/
theorem sleeps_of_stopped {es : List Deed} {b : Bool} (h : Stopped config es b) :
    ∃ m, m ≤ config.stopWait.maxRetries ∧
      sleeps es = List.replicate m config.stopWait.delay := by
  cases h with
  | notRunning => exact ⟨0, Nat.zero_le _, rfl⟩
  | refused => exact ⟨0, Nat.zero_le _, rfl⟩
  | @waited a b answers ended _ _ hends =>
    refine ⟨answers.length - 1, ?_, sleeps_polled config.stopWait.delay answers⟩
    have := hends.length_le
    omega

/-! ## 3. Launches -/

/-- **The time limit of a launch:** zero if none is configured, and else that one as a double. -/
inductive LaunchLimit (config : SamplerConfig) : Binary64 → Prop
  | unlimited : config.recordTimeout = none → LaunchLimit config Binary64.zero
  | limited {q x} : config.recordTimeout = some q → q.toDouble? = some x → LaunchLimit config x

theorem launchTimeout_of_limit {timeout : Binary64} (h : LaunchLimit config timeout) :
    launchTimeout config = .ok timeout := by
  unfold launchTimeout
  cases h with
  | unlimited hq => rw [hq]
  | limited hq hx =>
    rw [hq]
    dsimp only [Quantity.toDouble]
    rw [hx]

/-- **When the way is clear:** the first running check is negative, or the stop right after it
succeeds. -/
def ClearIn {σ : Type} (w : World ShellCall ShellAnswer σ) (world : σ) (config : SamplerConfig) :
    Prop :=
  ¬ Positive (checkIn w world config).1 ∨
    ((stopSampler config).run w (checkIn w world config).2).result = .ok true

/-- What is done to clear the way: a check, and the deeds of a stop if it was positive. -/
inductive ClearedBy (config : SamplerConfig) (first : Except Fault ShellResult)
    (stop : List Deed) : List Deed → Prop
  | free : ¬ Positive first → ClearedBy config first stop [check config first]
  | stopped : Positive first → ClearedBy config first stop (check config first :: stop)

section Runs

variable {σ : Type} {w : World ShellCall ShellAnswer σ}

/-- The way is cleared exactly if it is clear. -/
theorem clearTheWay_clears (hw : Reliable w) (world : σ) (config : SamplerConfig) :
    ∃ b, ((clearTheWay config).run w world).result = .ok b ∧ (b = true ↔ ClearIn w world config) ∧
      ClearedBy config (checkIn w world config).1
        (deeds ((stopSampler config).run w (checkIn w world config).2).events)
        (deeds ((clearTheWay config).run w world).events) := by
  obtain ⟨hpositive, hnegative⟩ := run_clearTheWay w world hw config
  obtain ⟨b, hb, -⟩ := stopSampler_stopped hw (checkIn w world config).2 config
  unfold ClearIn
  by_cases hp : Positive (checkIn w world config).1
  · obtain ⟨hr, hd⟩ := hpositive hp
    refine ⟨b, hr.trans hb, ?_, ?_⟩
    · rw [hb, Except.ok.injEq]
      exact (or_iff_right (not_not_intro hp)).symm
    · rw [hd]
      exact .stopped hp
  · obtain ⟨hr, hd⟩ := hnegative hp
    refine ⟨true, hr, iff_of_true rfl (Or.inl hp), ?_⟩
    rw [hd]
    exact .free hp

/-- A start whose way is not clear launches nothing. -/
theorem startCollecting_of_not_clear (world : σ) (subcommand arguments : String)
    (h : ((clearTheWay config).run w world).result = .ok false) :
    ((startCollecting config subcommand arguments).run w world).result = .ok (none, .ok false) ∧
      deeds ((startCollecting config subcommand arguments).run w world).events =
        deeds ((clearTheWay config).run w world).events := by
  have hrun : (startCollecting config subcommand arguments).run w world = _ :=
    run_bind w (clearTheWay config).attempt _ world
  rw [run_attempt, h] at hrun
  rw [hrun]
  refine ⟨rfl, ?_⟩
  show deeds (_ ++ []) = _
  rw [List.append_nil]

/-- A start whose way is clear launches, and waits for the sampler. -/
theorem startCollecting_of_clear (hw : Reliable w) (world : σ) {timeout : Binary64}
    (hlimit : LaunchLimit config timeout) (subcommand arguments : String)
    (h : ((clearTheWay config).run w world).result = .ok true) :
    ∃ held answer answers b,
      ((startCollecting config subcommand arguments).run w world).result =
        .ok (some (launched (config.startCommand subcommand arguments) held answer), .ok b) ∧
      deeds ((startCollecting config subcommand arguments).run w world).events =
        deeds ((clearTheWay config).run w world).events ++
          started config subcommand arguments timeout held answer ::
            polled config config.startWait.delay answers ∧
      PollEnds Positive config.startWait.maxRetries answers b := by
  have hrun : (startCollecting config subcommand arguments).run w world = _ :=
    run_bind w (clearTheWay config).attempt _ world
  rw [run_attempt, h] at hrun
  have hrest := run_mayGo w (launchAfterClearing config subcommand arguments)
    ((clearTheWay config).run w world).world
  have hund := hw.undisturbed (launchAfterClearing config subcommand arguments)
    ((clearTheWay config).run w world).world
  have hdeeds : deeds ((startCollecting config subcommand arguments).run w world).events =
      deeds ((clearTheWay config).run w world).events ++
        deeds ((launchAfterClearing config subcommand arguments).run w
          ((clearTheWay config).run w world).world).events := by
    rw [hrun]
    exact deeds_append _ _
  rcases launchAfterClearing_mayGo hrest with
    ⟨f, ht, -⟩ | ⟨timeout', held, answer, rest, result, ht, hes, hpoll, hr⟩
  · rw [launchTimeout_of_limit hlimit] at ht
    cases ht
  · rw [launchTimeout_of_limit hlimit] at ht
    obtain rfl := Except.ok.inj ht
    rw [hes] at hund hdeeds
    obtain ⟨answers, b, rfl, rfl, hends⟩ := exists_polled hpoll hund.tail
    rw [awaited_true] at hends
    refine ⟨held, answer, answers, b, ?_, hdeeds, hends⟩
    rw [hrun]
    exact hr

end Runs

/-! ## 4. Starts -/

theorem launches_add (s : SessionState) (l : Launch) : (s.add l).launches = s.launches ++ [l] := by
  unfold SessionState.add SessionState.noteHeld
  split
  · split
    · rfl
    · rfl
  · rfl

/-- The session once a launch was made, if any: the launch becomes the current one. -/
def launching (s : SessionState) : Option Launch → SessionState
  | none => s
  | some l => { s.add l with current := some s.launches.length }

theorem launching_launches (s : SessionState) (l : Launch) :
    (launching s (some l)).launches = s.launches ++ [l] :=
  launches_add s l

/-- A start as an operation of a session does what the start does. -/
theorem perform_startCollecting {σ : Type} {w : World ShellCall ShellAnswer σ} {world : σ}
    {subcommand arguments : String} {launch : Option Launch} {r : Except Fault Bool}
    (s : SessionState)
    (h : ((startCollecting config subcommand arguments).run w world).result = .ok (launch, r)) :
    (((Operation.startCollecting subcommand arguments).perform config s).run w world).result =
        .ok (launching s launch, r.map .flag) ∧
      (((Operation.startCollecting subcommand arguments).perform config s).run w world).events =
        ((startCollecting config subcommand arguments).run w world).events := by
  have hrun : ((Operation.startCollecting subcommand arguments).perform config s).run w world = _ :=
    run_bind w (startCollecting config subcommand arguments) _ world
  unfold Outcome.andThen at hrun
  rw [h] at hrun
  rw [hrun]
  cases launch with
  | none => exact ⟨rfl, List.append_nil _⟩
  | some l => exact ⟨rfl, List.append_nil _⟩

/-- Clearing the way starts nothing, and sleeps as a stop does. -/
theorem starts_and_sleeps_of_cleared {first : Except Fault ShellResult} {stop es : List Deed}
    {b : Bool} (hstop : Stopped config stop b) (h : ClearedBy config first stop es)
    (subcommand arguments : String) :
    starts config subcommand arguments (commands es) = [] ∧
      ∃ m, m ≤ config.stopWait.maxRetries ∧
        sleeps es = List.replicate m config.stopWait.delay := by
  have hfirst : ∀ {i : Issued} {rest : List Deed},
      i ∈ commands (check config first :: rest) → i.IsCheck config ∨ i ∈ commands rest := by
    intro i rest hi
    rcases List.mem_cons.1 hi with rfl | hi
    · exact Or.inl (isCheck_check first)
    · exact Or.inr hi
  cases h with
  | free =>
    refine ⟨starts_eq_nil fun i hi => Or.inl ?_, 0, Nat.zero_le _, rfl⟩
    exact (hfirst hi).resolve_right List.not_mem_nil
  | stopped =>
    obtain ⟨m, hm, hsleeps⟩ := sleeps_of_stopped hstop
    refine ⟨starts_eq_nil fun i hi => ?_, m, hm, hsleeps⟩
    rcases hfirst hi with hi | hi
    · exact Or.inl hi
    · exact isCheck_or_isInterrupt_of_stopped hstop i hi

/-- A launch is the only start of its poll. -/
theorem starts_started (subcommand arguments : String) (timeout delay : Binary64) (held : Bool)
    (answer : Except Fault ShellResult) (answers : List (Except Fault ShellResult)) :
    starts config subcommand arguments
        (commands (started config subcommand arguments timeout held answer ::
          polled config delay answers)) =
      [⟨⟨.start, config.startCommand subcommand arguments, some timeout⟩, answer⟩] := by
  show starts config subcommand arguments
    ([⟨⟨.start, config.startCommand subcommand arguments, some timeout⟩, answer⟩] ++
      commands (polled config delay answers)) = _
  rw [starts_append, starts_eq_nil fun i hi => Or.inl (isCheck_of_polled i hi), List.append_nil]
  exact List.filter_eq_self.2 fun i hi => by
    rw [List.mem_singleton.1 hi]
    rfl

/-- **When a start launches, what it leaves, and how it ends.**  If the way is not clear, it fails,
starts nothing and leaves the session as it is.  If the way is clear, it makes a fresh launch,
issues its command once, with the time limit that is set, and succeeds exactly if one of the
running checks after it is positive, of which there are no more than the retries allow.  It
sleeps as the stop before it does, and then between these checks. -/
theorem startCollecting_launches {σ : Type} {w : World ShellCall ShellAnswer σ} (hw : Reliable w)
    (world : σ) {timeout : Binary64} (hlimit : LaunchLimit config timeout) (s : SessionState)
    (subcommand arguments : String) :
    let stop := (stopSampler config).run w (checkIn w world config).2
    let start := ((Operation.startCollecting subcommand arguments).perform config s).run w world
    let command := Text.strip (config.binary ++ " " ++ subcommand ++ " -o " ++
      Shell.quoteWord config.recordPath ++ " " ++ arguments)
    (¬ ClearIn w world config →
      start.result = .ok (s, .ok (.flag false)) ∧
      deeds start.events = check config (checkIn w world config).1 :: deeds stop.events ∧
      starts config subcommand arguments (commands start.events) = []) ∧
    (ClearIn w world config →
      ∃ after launch clearing held answer answers b,
        start.result = .ok (after, .ok (.flag b)) ∧
        after.launches = s.launches ++ [launch] ∧ after.current = some s.launches.length ∧
        launch.command = command ∧
        ClearedBy config (checkIn w world config).1 (deeds stop.events) clearing ∧
        deeds start.events = clearing ++ .spawned ⟨.start, command, some timeout⟩ held answer ::
          polled config config.startWait.delay answers ∧
        starts config subcommand arguments (commands start.events) =
          [⟨⟨.start, command, some timeout⟩, answer⟩] ∧
        PollEnds Positive config.startWait.maxRetries answers b ∧
        (b = true ↔ ∃ a ∈ answers, Positive a) ∧
        answers.length ≤ config.startWait.maxRetries + 1) ∧
    ∃ m n, m ≤ config.stopWait.maxRetries ∧ n ≤ config.startWait.maxRetries ∧
      sleeps start.events = List.replicate m config.stopWait.delay ++
        List.replicate n config.startWait.delay := by
  intro stop start command
  obtain ⟨stopped, -, hstopped⟩ := stopSampler_stopped hw (checkIn w world config).2 config
  obtain ⟨clear, hr, hclear, hcleared⟩ := clearTheWay_clears hw world config
  obtain ⟨hnone, m, hm, hsleeps⟩ :=
    starts_and_sleeps_of_cleared hstopped hcleared subcommand arguments
  cases clear with
  | false =>
    have hnot : ¬ ClearIn w world config := fun h => Bool.false_ne_true (hclear.2 h)
    obtain ⟨hres, hdeeds⟩ := startCollecting_of_not_clear world subcommand arguments hr
    obtain ⟨hresult, hevents⟩ := perform_startCollecting s hres
    have hall : deeds start.events = deeds ((clearTheWay config).run w world).events :=
      (congrArg deeds hevents).trans hdeeds
    refine ⟨fun _ => ⟨hresult, ?_, ?_⟩, fun h => absurd h hnot, m, 0, hm, Nat.zero_le _, ?_⟩
    · rw [hall]
      generalize deeds ((clearTheWay config).run w world).events = es at hcleared
      cases hcleared with
      | free hp => exact absurd (Or.inl hp) hnot
      | stopped => rfl
    · rw [← commands_deeds, hall]
      exact hnone
    · rw [← sleeps_deeds, hall, hsleeps]
      exact (List.append_nil _).symm
  | true =>
    obtain ⟨held, answer, answers, b, hres, hdeeds, hends⟩ :=
      startCollecting_of_clear hw world hlimit subcommand arguments hr
    obtain ⟨hresult, hevents⟩ := perform_startCollecting s hres
    have hall : deeds start.events = deeds ((clearTheWay config).run w world).events ++
        started config subcommand arguments timeout held answer ::
          polled config config.startWait.delay answers :=
      (congrArg deeds hevents).trans hdeeds
    refine ⟨fun h => absurd (hclear.1 rfl) h, fun _ => ?_, m, answers.length - 1, hm, ?_, ?_⟩
    · refine ⟨_, _, _, held, answer, answers, b, hresult, launching_launches s _, rfl, rfl,
        hcleared, hall, ?_, hends, hends.eq_true_iff, hends.length_le⟩
      rw [← commands_deeds, hall, commands_append, starts_append, hnone, starts_started]
      rfl
    · have := hends.length_le
      omega
    · rw [← sleeps_deeds, hall, sleeps_append, hsleeps]
      exact congrArg _ (sleeps_polled config.startWait.delay answers)

/-- A device whose sampler runs or not, as its state says; an interrupt ends it, and a launch starts
it though the worker loses the device. -/
def restartingDevice : World ShellCall ShellAnswer Bool where
  call c running :=
    match c.purpose with
    | .runningCheck => (.ok (if running then { output := "7 12\n" } else { code := 1 }), running)
    | .interrupt => (.ok {}, false)
    | _ => (.ok {}, running)
  spawn _ _ := ((false, .error (.unreachable "device lost")), true)
  sleep _ running := (false, running)

theorem reliable_restartingDevice : Reliable restartingDevice := by
  refine ⟨fun c running f h => ?_, fun _ _ => rfl⟩
  simp only [restartingDevice] at h
  split at h
  · cases h
  · cases h
  · cases h

/-- A sampler that runs is stopped first, and the next one is seen though its worker fails. -/
theorem startCollecting_launches_restartingDevice :
    Reliable restartingDevice ∧ LaunchLimit {} Binary64.zero ∧
      ClearIn restartingDevice true {} ∧
      ∃ after launch,
        (((Operation.startCollecting "record" "-a").perform {} {}).run restartingDevice true).result =
            .ok (after, .ok (.flag true)) ∧
          after.launches = [launch] ∧
          launch.command = "simpleperf record -o /data/local/tmp/perf.data -a" := by
  have hlimit : LaunchLimit {} Binary64.zero := .unlimited rfl
  have hclear : ClearIn restartingDevice true {} := Or.inr (by decide +kernel)
  have hflag :
      (((Operation.startCollecting "record" "-a").perform {} {}).run restartingDevice
        true).result.map Prod.snd = .ok (.ok (.flag true)) := by
    decide +kernel
  obtain ⟨after, launch, clearing, held, answer, answers, b, hresult, hlaunches, -, hcommand, -⟩ :=
    (startCollecting_launches reliable_restartingDevice true hlimit {} "record" "-a").2.1 hclear
  rw [hresult] at hflag
  obtain rfl : b = true :=
    OperationResult.flag.inj (Except.ok.inj (Except.ok.inj hflag))
  refine ⟨reliable_restartingDevice, hlimit, hclear, after, launch, hresult, hlaunches, ?_⟩
  rw [hcommand]
  decide +kernel

end Session
end DeviceSampling
