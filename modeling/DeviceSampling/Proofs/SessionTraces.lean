/-
# What the operations of a session may do

One lemma for each operation says all that it may do: its commands with their answers and its
sleeps, in order, and its end.  Facts about the operations are read off these lemmas, and no
other proof opens an operation.

* `checkEnd`, `commandEnd`, `interruptEnd`: what is made of an answer;
* `isRunning_mayGo`, `stopSampler_mayGo` (`Stops`), `moveRecord_mayGo` (`Moves`),
  `stopCollecting_mayGo` (`Collects`), `clearTheWay_mayGo` (`Clears`),
  `launchAfterClearing_mayGo` and `startCollecting_mayGo` (`Starts`);
* `processIds_mayGo` (`Finds`): a look-up.
-/
import DeviceSampling.Proofs.IdLists
import DeviceSampling.Proofs.Traces
import DeviceSampling.Session.Sampling

namespace DeviceSampling
namespace Session

open Dialog

variable {config : SamplerConfig}

/-! ## 1. Deeds of a session -/

/-- An event of a session that is more than a log record. -/
abbrev Deed : Type := Event ShellCall ShellAnswer

/-- A command without a time limit of its own, with its answer. -/
def issued (purpose : Purpose) (command : String) (answer : Except Fault ShellResult) : Deed :=
  .called ⟨purpose, command, none⟩ answer

@[simp] theorem mayGo_say {α : Type} {severity : Severity} {message : String}
    {k : Unit → Session α} {es : List Deed} {r : Except Fault α} :
    (say severity message >>= k).MayGo es r ↔ (k ()).MayGo es r := Iff.rfl

@[simp] theorem mayGo_issue {α : Type} {purpose : Purpose} {command : String}
    {k : Except Fault ShellResult → Session α} {es : List Deed} {r : Except Fault α} :
    (issue purpose command >>= k).MayGo es r ↔
      ∃ a rest, es = issued purpose command a :: rest ∧ (k a).MayGo rest r := Iff.rfl

/-! ## 2. Running checks -/

/-- A running check with its answer, as the command reads. -/
def check (config : SamplerConfig) (answer : Except Fault ShellResult) : Deed :=
  issued .runningCheck ("pidof " ++ Shell.baseName config.binary) answer

/-- The end of a running check on an answer: a device that cannot be reached counts as one that
does not run the sampler. -/
def checkEnd : Except Fault ShellResult → Except Fault Bool
  | .error (.unreachable _) => .ok false
  | .error fault => .error fault
  | .ok r => .ok r.showsRunning

theorem positive_of_checkEnd {a : Except Fault ShellResult} (h : checkEnd a = .ok true) :
    Positive a := by
  unfold checkEnd at h
  split at h
  · cases h
  · cases h
  · exact showsRunning_iff.1 (Except.ok.inj h)

theorem not_positive_of_checkEnd {a : Except Fault ShellResult} (h : checkEnd a ≠ .ok true) :
    ¬ Positive a := by
  cases a with
  | error f => exact not_positive_error
  | ok r =>
    intro hp
    exact h (congrArg Except.ok (showsRunning_iff.2 hp))

/-- A running check issues one command, and ends as its answer says. -/
theorem isRunning_mayGo {es : List Deed} {r : Except Fault Bool} :
    (isRunning config).MayGo es r ↔ ∃ a, es = [check config a] ∧ r = checkEnd a := by
  unfold isRunning
  rw [mayGo_issue]
  have hread : ∀ {a : Except Fault ShellResult} {rest : List Deed},
      (readRunning a).MayGo rest r ↔ rest = [] ∧ r = checkEnd a := by
    intro a rest
    match a with
    | .error f => cases f <;> exact Iff.rfl
    | .ok r' =>
      unfold readRunning
      rw [mayGo_say]
      split
      · exact Iff.rfl
      · exact Iff.rfl
  constructor
  · rintro ⟨a, rest, rfl, h⟩
    obtain ⟨rfl, rfl⟩ := hread.1 h
    exact ⟨a, rfl, rfl⟩
  · rintro ⟨a, rfl, rfl⟩
    exact ⟨a, [], rfl, hread.2 ⟨rfl, rfl⟩⟩

/-- One round of a poll for the sampler to run, or (`goal = false`) to have ended. -/
def CheckRound (config : SamplerConfig) (goal : Bool) (es : List Deed) (r : Except Fault Bool) :
    Prop :=
  ∃ a, es = [check config a] ∧ r = (checkEnd a).map (· == goal)

theorem checkRound_ok {goal b : Bool} {es : List Deed} (h : CheckRound config goal es (.ok b)) :
    ∃ a, es = [check config a] ∧ checkEnd a = .ok (b == goal) := by
  obtain ⟨a, rfl, ha⟩ := h
  cases hb : checkEnd a with
  | error f =>
    rw [hb] at ha
    cases ha
  | ok b' =>
    rw [hb] at ha
    have hb' : b = (b' == goal) := Except.ok.inj ha
    refine ⟨a, rfl, hb.trans (congrArg Except.ok ?_)⟩
    rw [hb']
    cases b' <;> cases goal <;> rfl

/-! ## 3. Stopping -/

/-- An interrupt with its answer, as the command reads. -/
def interrupt (config : SamplerConfig) (answer : Except Fault ShellResult) : Deed :=
  issued .interrupt ("pkill -INT " ++ Shell.baseName config.binary) answer

/-- The end of a stop whose interrupt failed; none if the sampler was told, or has ended
already. -/
def interruptEnd? : Except Fault ShellResult → Option (Except Fault Bool)
  | .error (.unreachable _) => some (.ok false)
  | .error fault => some (.error fault)
  | .ok r => if !r.ok && !Text.isBlankText r.errors then some (.ok false) else none

/-- Waiting for the sampler to end is a poll. -/
theorem awaitStop_mayGo {es : List Deed} {r : Except Fault Bool}
    (h : (awaitStop config).MayGo es r) :
    PollGoes (CheckRound config false) config.stopWait.delay config.stopWait.maxRetries es r := by
  have hround : ∀ {es : List Deed} {r : Except Fault Bool},
      (do return !(← isRunning config) : Session Bool).MayGo es r → CheckRound config false es r := by
    intro es r h
    rcases mayGo_bind.1 h with ⟨b, front, rest, rfl, hc, rfl, rfl⟩ | ⟨f, rfl, hc⟩
    · obtain ⟨a, rfl, ha⟩ := isRunning_mayGo.1 hc
      exact ⟨a, rfl, by rw [← ha]; cases b <;> rfl⟩
    · obtain ⟨a, rfl, ha⟩ := isRunning_mayGo.1 hc
      exact ⟨a, rfl, by rw [← ha]; rfl⟩
  unfold awaitStop at h
  rw [mayGo_say] at h
  have hecho := mayGo_of_bind_echo (fun {b es r} hk => by cases b <;> exact hk) h
  exact pollFrom_mayGo hround hecho

/-- An interrupt that failed is the end; after any other the stop waits. -/
theorem readInterrupt_mayGo {b : Except Fault ShellResult} {es : List Deed} {r : Except Fault Bool}
    (h : (readInterrupt config b).MayGo es r) :
    (interruptEnd? b = some r ∧ es = []) ∨
      (interruptEnd? b = none ∧
        PollGoes (CheckRound config false) config.stopWait.delay config.stopWait.maxRetries es r) := by
  match b with
  | .error f =>
    have hend : es = [] ∧ interruptEnd? (.error f) = some r := by
      cases f <;> exact ⟨h.1, congrArg some h.2.symm⟩
    exact Or.inl ⟨hend.2, hend.1⟩
  | .ok r' =>
    dsimp only [readInterrupt] at h
    split at h
    · next hf =>
      obtain ⟨rfl, rfl⟩ := h
      exact Or.inl ⟨if_pos hf, rfl⟩
    · next hf => exact Or.inr ⟨if_neg hf, awaitStop_mayGo h⟩

/-- How a stop may go. -/
inductive Stops (config : SamplerConfig) : List Deed → Except Fault Bool → Prop
  /-- The sampler does not run, or the check fails. -/
  | notRunning {a r} : checkEnd a = r → r ≠ .ok true → Stops config [check config a] r
  /-- The interrupt fails. -/
  | notTold {a b r} : checkEnd a = .ok true → interruptEnd? b = some r →
      Stops config [check config a, interrupt config b] r
  | awaited {a b es r} : checkEnd a = .ok true → interruptEnd? b = none →
      PollGoes (CheckRound config false) config.stopWait.delay config.stopWait.maxRetries es r →
      Stops config (check config a :: interrupt config b :: es) r

/-- **A stop is a check, an interrupt and a poll,** up to the first of them that fails. -/
theorem stopSampler_mayGo {es : List Deed} {r : Except Fault Bool}
    (h : (stopSampler config).MayGo es r) : Stops config es r := by
  rcases mayGo_bind.1 h with ⟨running, front, rest, rfl, hc, hk⟩ | ⟨f, rfl, hc⟩
  · obtain ⟨a, rfl, ha⟩ := isRunning_mayGo.1 hc
    cases running with
    | false =>
      obtain ⟨rfl, rfl⟩ := hk
      exact .notRunning ha.symm (fun h => by cases h)
    | true =>
      obtain ⟨b, tail, rfl, hb⟩ := mayGo_issue.1 hk
      rcases readInterrupt_mayGo hb with ⟨hend, rfl⟩ | ⟨hend, hp⟩
      · exact .notTold ha.symm hend
      · exact .awaited ha.symm hend hp
  · obtain ⟨a, rfl, ha⟩ := isRunning_mayGo.1 hc
    exact .notRunning ha.symm (fun h => by cases h)

/-! ## 4. Moving the record -/

-- which directory is named is never computed here
attribute [local irreducible] Shell.directory

/-- The end of a command that has to do its work quietly. -/
def commandEnd : Except Fault ShellResult → Except Fault Bool
  | .error (.unreachable _) => .ok false
  | .error fault => .error fault
  | .ok r => .ok (wentQuietly r)

/-- A move with its answer, as the command reads. -/
def move (config : SamplerConfig) (destination : String) (answer : Except Fault ShellResult) :
    Deed :=
  issued .move
    ("mv " ++ Shell.quoteWord config.recordPath ++ " " ++ Shell.quoteWord destination) answer

/-- The making of a destination's directory, with its answer, as the command reads. -/
def makeDirectory (destination : String) (answer : Except Fault ShellResult) : Deed :=
  issued .makeDirectory ("mkdir -p " ++ Shell.quoteWord (Shell.directory destination)) answer

/-- How the moving of a record may go. -/
inductive Moves (config : SamplerConfig) (destination : String) :
    List Deed → Except Fault Bool → Prop
  /-- No directory is named. -/
  | directly {b} : (Shell.directory destination).isEmpty = true →
      Moves config destination [move config destination b] (commandEnd b)
  | notMade {a r} : (Shell.directory destination).isEmpty = false → commandEnd a = r →
      r ≠ .ok true → Moves config destination [makeDirectory destination a] r
  | made {a b} : (Shell.directory destination).isEmpty = false → commandEnd a = .ok true →
      Moves config destination [makeDirectory destination a, move config destination b]
        (commandEnd b)

theorem moveFile_mayGo {destination : String} {es : List Deed} {r : Except Fault Bool}
    (h : (moveFile config destination).MayGo es r) :
    ∃ b, es = [move config destination b] ∧ r = commandEnd b := by
  obtain ⟨b, rest, rfl, hb⟩ := mayGo_issue.1 h
  match b with
  | .error f =>
    have hend : rest = [] ∧ r = commandEnd (.error f) := by cases f <;> exact hb
    exact ⟨.error f, by rw [hend.1]; rfl, hend.2⟩
  | .ok r' =>
    dsimp only at hb
    cases hq : wentQuietly r' with
    | true =>
      rw [hq] at hb
      obtain ⟨rfl, rfl⟩ := hb
      exact ⟨.ok r', rfl, congrArg Except.ok hq.symm⟩
    | false =>
      rw [hq] at hb
      obtain ⟨rfl, rfl⟩ := hb
      exact ⟨.ok r', rfl, congrArg Except.ok hq.symm⟩

/-- **A record is moved after its directory is there:** the directory is made first if one is
named, and a directory that is not made quietly ends the move. -/
theorem moveRecord_mayGo {destination : String} {es : List Deed} {r : Except Fault Bool}
    (h : (moveRecord config destination).MayGo es r) : Moves config destination es r := by
  simp only [moveRecord] at h
  split at h
  · next hd =>
    obtain ⟨b, rfl, rfl⟩ := moveFile_mayGo h
    exact .directly hd
  · next hd =>
    rw [Bool.not_eq_true] at hd
    obtain ⟨a, rest, rfl, ha⟩ := mayGo_issue.1 h
    match a with
    | .error f =>
      have hend : rest = [] ∧ r = commandEnd (.error f) := by cases f <;> exact ha
      rw [hend.1]
      refine .notMade hd hend.2.symm ?_
      rw [hend.2]
      cases f <;> exact fun h => by cases h
    | .ok r' =>
      dsimp only at ha
      cases hq : wentQuietly r' with
      | true =>
        rw [hq] at ha
        obtain ⟨b, rfl, rfl⟩ := moveFile_mayGo ha
        exact .made hd (congrArg Except.ok hq)
      | false =>
        rw [hq] at ha
        obtain ⟨rfl, rfl⟩ := ha
        exact .notMade hd (congrArg Except.ok hq) (fun h => by cases h)

/-- How the end of a session may go. -/
inductive Collects (config : SamplerConfig) (destination : String) :
    List Deed → Except Fault Bool → Prop
  | notStopped {es r} : Stops config es r → r ≠ .ok true → Collects config destination es r
  | stopped {es moves r} : Stops config es (.ok true) → Moves config destination moves r →
      Collects config destination (es ++ moves) r

/-- **A record is moved after a stop that succeeded.** -/
theorem stopCollecting_mayGo {destination : String} {es : List Deed} {r : Except Fault Bool}
    (h : (stopCollecting config destination).MayGo es r) : Collects config destination es r := by
  unfold stopCollecting at h
  rw [mayGo_say] at h
  rcases mayGo_bind.1 h with ⟨stopped, front, rest, rfl, hs, hk⟩ | ⟨f, rfl, hs⟩
  · cases stopped with
    | true => exact .stopped (stopSampler_mayGo hs) (moveRecord_mayGo hk)
    | false =>
      obtain ⟨rfl, rfl⟩ := hk
      rw [List.append_nil]
      exact .notStopped (stopSampler_mayGo hs) (fun h => by cases h)
  · exact .notStopped (stopSampler_mayGo hs) (fun h => by cases h)

/-! ## 5. Starting -/

/-- How the way is cleared for a launch. -/
inductive Clears (config : SamplerConfig) : List Deed → Except Fault Bool → Prop
  | free {a} : checkEnd a = .ok false → Clears config [check config a] (.ok true)
  | stopped {a es r} : checkEnd a = .ok true → Stops config es r →
      Clears config (check config a :: es) r
  | failed {a f} : checkEnd a = .error f → Clears config [check config a] (.error f)

/-- **The way is clear after a check,** or after a stop. -/
theorem clearTheWay_mayGo {es : List Deed} {r : Except Fault Bool}
    (h : (clearTheWay config).MayGo es r) : Clears config es r := by
  unfold clearTheWay at h
  rw [mayGo_say] at h
  rcases mayGo_bind.1 h with ⟨running, front, rest, rfl, hc, hk⟩ | ⟨f, rfl, hc⟩
  · obtain ⟨a, rfl, ha⟩ := isRunning_mayGo.1 hc
    cases running with
    | true => exact .stopped ha.symm (stopSampler_mayGo hk)
    | false =>
      obtain ⟨rfl, rfl⟩ := hk
      exact .free ha.symm
  · obtain ⟨a, rfl, ha⟩ := isRunning_mayGo.1 hc
    exact .failed ha.symm

/-- A start command with its time limit and its answer; the worker may be held up. -/
def started (config : SamplerConfig) (subcommand arguments : String) (timeout : Binary64)
    (held : Bool) (answer : Except Fault ShellResult) : Deed :=
  .spawned ⟨.start, config.startCommand subcommand arguments, some timeout⟩ held answer

/-- How far a worker is once it has its answer. -/
def progressAfter : Except Fault ShellResult → LaunchProgress
  | .error fault => .failed fault
  | .ok r => .finished r.output

/-- The launch once its worker has its answer, or is held up with it. -/
def launched (command : String) (held : Bool) (answer : Except Fault ShellResult) : Launch :=
  { command, progress := if held then .held answer else progressAfter answer }

/-- Waiting for the sampler to run is a poll. -/
theorem awaitStart_mayGo {es : List Deed} {r : Except Fault Bool}
    (h : (awaitStart config).MayGo es r) :
    PollGoes (CheckRound config true) config.startWait.delay config.startWait.maxRetries es r := by
  have hround : ∀ {es : List Deed} {r : Except Fault Bool},
      (isRunning config).MayGo es r → CheckRound config true es r := by
    intro es r h
    obtain ⟨a, rfl, rfl⟩ := isRunning_mayGo.1 h
    refine ⟨a, rfl, ?_⟩
    cases checkEnd a with
    | error f => rfl
    | ok b => cases b <;> rfl
  have hecho := mayGo_of_bind_echo (fun {b es r} hk => by cases b <;> exact hk) h
  exact pollFrom_mayGo hround hecho

/-- A worker that ends writes log records only. -/
theorem finish_mayGo {l : Launch} {a : Except Fault ShellResult} {es : List Deed}
    {r : Except Fault Launch} (h : (l.finish a).MayGo es r) :
    es = [] ∧ r = .ok { l with progress := progressAfter a } := by
  match a with
  | .error f => exact h
  | .ok r' =>
    dsimp only [Launch.finish] at h
    split at h
    · exact h
    · exact h

/-- How a start may go. -/
inductive Starts (config : SamplerConfig) (subcommand arguments : String) :
    List Deed → Except Fault (Option Launch × Except Fault Bool) → Prop
  | notCleared {es r} : Clears config es r → r ≠ .ok true →
      Starts config subcommand arguments es (.ok (none, r))
  /-- The time limit is beyond the doubles. -/
  | noLimit {es f} : Clears config es (.ok true) → launchTimeout config = .error f →
      Starts config subcommand arguments es
        (.ok (some { command := config.startCommand subcommand arguments }, .error f))
  | launched {es polled timeout held answer r} : Clears config es (.ok true) →
      launchTimeout config = .ok timeout →
      PollGoes (CheckRound config true) config.startWait.delay config.startWait.maxRetries
        polled r →
      Starts config subcommand arguments
        (es ++ started config subcommand arguments timeout held answer :: polled)
        (.ok (some (launched (config.startCommand subcommand arguments) held answer), r))

/-- A launch spawns its worker, and then the sampler is waited for. -/
theorem launchAndWait_mayGo {command : String} {es : List Deed}
    {r : Except Fault (Launch × Except Fault Bool)}
    (h : (launchAndWait config command).MayGo es r) :
    (∃ f, launchTimeout config = .error f ∧ es = [] ∧ r = .ok ({ command }, .error f)) ∨
      ∃ timeout held answer polled result, launchTimeout config = .ok timeout ∧
        es = .spawned ⟨.start, command, some timeout⟩ held answer :: polled ∧
        PollGoes (CheckRound config true) config.startWait.delay config.startWait.maxRetries
          polled result ∧ r = .ok (launched command held answer, result) := by
  unfold launchAndWait at h
  cases ht : launchTimeout config with
  | error f =>
    rw [ht] at h
    exact Or.inl ⟨f, rfl, h.1, h.2⟩
  | ok timeout =>
    rw [ht] at h
    have hwait : ∀ {l : Launch} {rest : List Deed},
        (do return (l, ← (awaitStart config).attempt) : Session _).MayGo rest r →
          ∃ result, PollGoes (CheckRound config true) config.startWait.delay
            config.startWait.maxRetries rest result ∧ r = .ok (l, result) := by
      intro l rest h
      rcases mayGo_bind.1 h with ⟨result, front, tail, rfl, hp, rfl, rfl⟩ | ⟨f, rfl, hp⟩
      · obtain ⟨result', hr, hp⟩ := mayGo_attempt.1 hp
        cases hr
        rw [List.append_nil]
        exact ⟨result, awaitStart_mayGo hp, rfl⟩
      · obtain ⟨result', hr, -⟩ := mayGo_attempt.1 hp
        cases hr
    obtain ⟨held, answer, rest, rfl, hk⟩ := h
    cases held with
    | true =>
      obtain ⟨result, hp, rfl⟩ := hwait hk
      exact Or.inr ⟨timeout, true, answer, rest, result, rfl, rfl, hp, rfl⟩
    | false =>
      rcases mayGo_bind.1 hk with ⟨l, front, tail, rfl, hl, hk⟩ | ⟨f, rfl, hl⟩
      · obtain ⟨rfl, hend⟩ := finish_mayGo hl
        cases hend
        obtain ⟨result, hp, rfl⟩ := hwait hk
        exact Or.inr ⟨timeout, false, answer, tail, result, rfl, rfl, hp, rfl⟩
      · obtain ⟨-, hend⟩ := finish_mayGo hl
        cases hend

/-- What comes after the way is clear: a launch, and the waiting for it. -/
def launchAfterClearing (config : SamplerConfig) (subcommand arguments : String) :
    Session (Option Launch × Except Fault Bool) := do
  say .info "Starting simpleperf"
  let (launch, result) ← launchAndWait config (config.startCommand subcommand arguments)
  return (some launch, result)

theorem launchAfterClearing_mayGo {subcommand arguments : String} {es : List Deed}
    {r : Except Fault (Option Launch × Except Fault Bool)}
    (h : (launchAfterClearing config subcommand arguments).MayGo es r) :
    (∃ f, launchTimeout config = .error f ∧ es = [] ∧
        r = .ok (some { command := config.startCommand subcommand arguments }, .error f)) ∨
      ∃ timeout held answer polled result, launchTimeout config = .ok timeout ∧
        es = started config subcommand arguments timeout held answer :: polled ∧
        PollGoes (CheckRound config true) config.startWait.delay config.startWait.maxRetries
          polled result ∧
        r = .ok (some (launched (config.startCommand subcommand arguments) held answer), result) := by
  unfold launchAfterClearing at h
  rw [mayGo_say] at h
  rcases mayGo_bind.1 h with ⟨p, front, tail, rfl, hl, rfl, rfl⟩ | ⟨f, rfl, hl⟩
  · rw [List.append_nil]
    rcases launchAndWait_mayGo hl with
      ⟨f, ht, rfl, hp⟩ | ⟨timeout, held, answer, polled, result, ht, rfl, hpoll, hp⟩
    · obtain rfl := Except.ok.inj hp
      exact Or.inl ⟨f, ht, rfl, rfl⟩
    · obtain rfl := Except.ok.inj hp
      exact Or.inr ⟨timeout, held, answer, polled, result, ht, rfl, hpoll, rfl⟩
  · rcases launchAndWait_mayGo hl with ⟨_, -, -, hp⟩ | ⟨_, _, _, _, _, -, -, -, hp⟩
    · injection hp
    · injection hp

/-- **A start launches once, after the way is clear,** and then waits; it never fails, and its
fault, if any, is a result. -/
theorem startCollecting_mayGo {subcommand arguments : String} {es : List Deed}
    {r : Except Fault (Option Launch × Except Fault Bool)}
    (h : (startCollecting config subcommand arguments).MayGo es r) :
    Starts config subcommand arguments es r := by
  rcases mayGo_bind.1 h with ⟨cleared, front, rest, rfl, hc, hk⟩ | ⟨f, rfl, hc⟩
  · obtain ⟨cleared', hr, hc⟩ := mayGo_attempt.1 hc
    cases hr
    have hclear := clearTheWay_mayGo hc
    match cleared with
    | .error f =>
      obtain ⟨rfl, rfl⟩ := hk
      rw [List.append_nil]
      exact .notCleared hclear (fun h => by cases h)
    | .ok false =>
      obtain ⟨rfl, rfl⟩ := hk
      rw [List.append_nil]
      exact .notCleared hclear (fun h => by cases h)
    | .ok true =>
      rcases launchAfterClearing_mayGo hk with
        ⟨f, ht, rfl, rfl⟩ | ⟨timeout, held, answer, polled, result, ht, rfl, hpoll, rfl⟩
      · rw [List.append_nil]
        exact .noLimit hclear ht
      · exact .launched hclear ht hpoll
  · obtain ⟨_, hr, -⟩ := mayGo_attempt.1 hc
    cases hr

/-! ## 6. Looking processes up -/

/-- **The ids that an answer shows:** the trimmed output, if the command succeeded and printed groups
of digits, and else nothing. -/
inductive Finds : Except Fault ShellResult → String → Prop
  | shown {r} : r.code = 0 → IdGroups (Text.trim r.output.toList) →
      Finds (.ok r) (Text.strip r.output)
  | nothing {a} : (∀ r, a = .ok r → r.code = 0 → ¬ IdGroups (Text.trim r.output.toList)) →
      Finds a ""

/-- **A look-up issues one command and has the ids that its answer shows.** -/
theorem processIds_mayGo {process : String} {es : List Deed} {r : Except Fault String}
    (h : (processIds process).MayGo es r) :
    ∃ a ids, es = [issued .lookUp (lookUpCommand process) a] ∧ r = .ok ids ∧ Finds a ids := by
  obtain ⟨a, rest, rfl, ha⟩ := mayGo_issue.1 h
  match a with
  | .error f =>
    obtain ⟨rfl, rfl⟩ := ha
    refine ⟨_, "", rfl, rfl, .nothing fun r hr => ?_⟩
    cases hr
  | .ok r' =>
    dsimp only at ha
    split at ha
    · next hshown =>
      obtain ⟨rfl, rfl⟩ := ha
      obtain ⟨hok, hids⟩ := Bool.and_eq_true_iff.1 hshown
      exact ⟨_, _, rfl, rfl, .shown (of_decide_eq_true hok) ((isIdList_strip_iff _).1 hids)⟩
    · next hnot =>
      obtain ⟨rfl, rfl⟩ := ha
      refine ⟨_, "", rfl, rfl, .nothing fun r hr hcode hids => hnot ?_⟩
      cases hr
      exact Bool.and_eq_true_iff.2 ⟨decide_eq_true hcode, (isIdList_strip_iff _).2 hids⟩

end Session
end DeviceSampling
