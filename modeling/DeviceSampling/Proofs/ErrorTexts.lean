/-
# Sessions do not read the texts of faults

A device that cannot be reached says why, and a session passes that on: to its log, to the launch
whose command it was, and to the report that ended there.  It decides nothing by it.  Two sessions
whose devices give the same answers but for these texts issue the same commands, sleep alike and end
with the same results but for these texts.

* `SameAnswer`, `SameEnd`: answers and ends that are the same but for the texts of faults;
* `Alike`: **sessions that do the same on such answers;** `Alike.bind`, `Alike.attempt`;
* `SameLaunch`, `SameState`, `SameReport`, `SameStepResult`: the same for what a session leaves;
* `SessionStep.perform_alike`, `performSession_alike`: **each step of a session is alike, and so are
  all of them.**

`Alike` tells two more things of a session: whether it may fail, and what time limits its commands
ask for, which is none but for the start command.
-/
import Mathlib.Data.List.Forall2
import DeviceSampling.Session.Operation

namespace DeviceSampling

open Dialog

/-! ## 1. Answers and sessions -/

/-- The same fault, or results that are related. -/
inductive SameEnd {α β : Type} (rel : α → β → Prop) : Except Fault α → Except Fault β → Prop
  | ok {a b} : rel a b → SameEnd rel (.ok a) (.ok b)
  | error (f : Fault) : SameEnd rel (.error f) (.error f)

/-- **The same answer but for its text:** the same result, or a device that cannot be reached. -/
inductive SameAnswer : Except Fault ShellResult → Except Fault ShellResult → Prop
  | ran (r : ShellResult) : SameAnswer (.ok r) (.ok r)
  | unreachable (message message' : String) :
      SameAnswer (.error (.unreachable message)) (.error (.unreachable message'))

/-- **Sessions that do the same on the same answers,** and end with related results.  They fail only
if `fails`, no command but the start command asks for a time limit, and that one asks for one of
`limits`. -/
inductive Alike (fails : Prop) (limits : Option Binary64 → Prop) {α β : Type}
    (rel : α → β → Prop) : Session α → Session β → Prop
  | done {a b} : rel a b → Alike fails limits rel (.done a) (.done b)
  | fail (f : Fault) : fails → Alike fails limits rel (.fail f) (.fail f)
  | log {r r' d d'} : Alike fails limits rel d d' → Alike fails limits rel (.log r d) (.log r' d')
  | sleep {seconds next next'} : (∀ b, Alike fails limits rel (next b) (next' b)) →
      Alike fails limits rel (.sleep seconds next) (.sleep seconds next')
  | call {c next next'} : c.purpose ≠ .start → c.timeout = none →
      (∀ answer answer', SameAnswer answer answer' →
        Alike fails limits rel (next answer) (next' answer')) →
      Alike fails limits rel (.call c next) (.call c next')
  | spawn {c next next'} : c.purpose = .start → limits c.timeout →
      (∀ held answer answer', SameAnswer answer answer' →
        Alike fails limits rel (next held answer) (next' held answer')) →
      Alike fails limits rel (.spawn c next) (.spawn c next')

namespace Alike

variable {fails fails' : Prop} {limits : Option Binary64 → Prop} {α β γ δ : Type}
variable {rel : α → β → Prop} {rel' : γ → δ → Prop} {d : Session α} {d' : Session β}

/-- **Sequences of such sessions** do the same. -/
theorem bind {k : α → Session γ} {k' : β → Session δ} (h : Alike fails limits rel d d')
    (hk : ∀ a b, rel a b → Alike fails limits rel' (k a) (k' b)) :
    Alike fails limits rel' (d.bind k) (d'.bind k') := by
  induction h with
  | done hab => exact hk _ _ hab
  | fail f hf => exact .fail f hf
  | log _ ih => exact .log ih
  | sleep _ ih => exact .sleep ih
  | call hp ht _ ih => exact .call hp ht ih
  | spawn hp hl _ ih => exact .spawn hp hl ih

theorem bind_same {d d' : Session α} {k : α → Session γ} {k' : α → Session δ}
    (h : Alike fails limits Eq d d') (hk : ∀ a, Alike fails limits rel' (k a) (k' a)) :
    Alike fails limits rel' (d.bind k) (d'.bind k') :=
  h.bind fun a _ he => he ▸ hk a

/-- Attempts do the same, and never fail. -/
theorem attempt (h : Alike fails limits rel d d') :
    Alike fails' limits (SameEnd rel) d.attempt d'.attempt := by
  induction h with
  | done hab => exact .done (.ok hab)
  | fail f _ => exact .done (.error f)
  | log _ ih => exact .log ih
  | sleep _ ih => exact .sleep ih
  | call hp ht _ ih => exact .call hp ht ih
  | spawn hp hl _ ih => exact .spawn hp hl ih

end Alike

/-- Related ends have related results. -/
theorem SameEnd.map {α β γ δ : Type} {rel : α → β → Prop} {rel' : γ → δ → Prop} {f : α → γ}
    {g : β → δ} {x : Except Fault α} {y : Except Fault β} (h : SameEnd rel x y)
    (hfg : ∀ a b, rel a b → rel' (f a) (g b)) : SameEnd rel' (x.map f) (y.map g) := by
  cases h with
  | ok hab => exact .ok (hfg _ _ hab)
  | error fault => exact .error fault

/-! ## 2. Starting and stopping -/

namespace Session

variable {fails : Prop} {limits : Option Binary64 → Prop} {config : SamplerConfig}
variable {answer answer' : Except Fault ShellResult}

theorem readRunning_alike (h : SameAnswer answer answer') :
    Alike fails limits Eq (readRunning answer) (readRunning answer') := by
  cases h with
  | unreachable => exact .log (.done rfl)
  | ran r =>
    refine .log ?_
    by_cases hb : Text.isBlankText r.errors = true
    · simp only [hb]
      exact .done rfl
    · simp only [hb]
      exact .log (.done rfl)

theorem isRunning_alike : Alike fails limits Eq (isRunning config) (isRunning config) :=
  .call nofun rfl fun _ _ => readRunning_alike

/-- Polls of conditions that do the same. -/
theorem pollFrom_alike {condition condition' : Session Bool} {delay : Binary64} {what : String}
    (h : Alike True limits Eq condition condition') :
    ∀ left used : Nat, Alike True limits Eq (pollFrom condition delay what used left)
      (pollFrom condition' delay what used left)
  | 0, used => h.bind_same fun holds => by
    cases holds with
    | true => exact .done rfl
    | false => exact .log (.done rfl)
  | left + 1, used => h.bind_same fun holds => by
    cases holds with
    | true => exact .done rfl
    | false =>
      refine .sleep fun interrupted => ?_
      cases interrupted with
      | true => exact .fail _ trivial
      | false => exact pollFrom_alike h left (used + 1)

theorem awaitStop_alike : Alike True limits Eq (awaitStop config) (awaitStop config) := by
  have hended : Alike True limits Eq (do return !(← isRunning config))
      (do return !(← isRunning config)) := isRunning_alike.bind_same fun _ => .done rfl
  refine .log ((pollFrom_alike hended _ _).bind_same fun stopped => ?_)
  cases stopped with
  | true => exact .log (.done rfl)
  | false => exact .log (.done rfl)

theorem readInterrupt_alike (h : SameAnswer answer answer') :
    Alike True limits Eq (readInterrupt config answer) (readInterrupt config answer') := by
  cases h with
  | unreachable => exact .log (.done rfl)
  | ran r =>
    unfold readInterrupt
    dsimp only
    split
    · exact .log (.done rfl)
    · exact awaitStop_alike

theorem stopSampler_alike : Alike True limits Eq (stopSampler config) (stopSampler config) := by
  refine isRunning_alike.bind_same fun running => ?_
  cases running with
  | true => exact .call nofun rfl fun _ _ => readInterrupt_alike
  | false => exact .log (.done rfl)

theorem moveFile_alike (destination : String) :
    Alike True limits Eq (moveFile config destination) (moveFile config destination) := by
  refine .call nofun rfl fun answer answer' h => ?_
  cases h with
  | unreachable => exact .log (.done rfl)
  | ran r =>
    dsimp only [done_bind]
    split
    · exact .done rfl
    · exact .log (.done rfl)

theorem moveRecord_alike (destination : String) :
    Alike True limits Eq (moveRecord config destination) (moveRecord config destination) := by
  unfold moveRecord
  dsimp only
  split
  · exact moveFile_alike destination
  · refine .call nofun rfl fun answer answer' h => ?_
    cases h with
    | unreachable => exact .log (.done rfl)
    | ran r =>
      dsimp only [done_bind]
      split
      · exact moveFile_alike destination
      · exact .log (.done rfl)

theorem stopCollecting_alike (destination : String) :
    Alike True limits Eq (stopCollecting config destination)
      (stopCollecting config destination) := by
  refine .log (stopSampler_alike.bind_same fun stopped => ?_)
  cases stopped with
  | true =>
    simp only [if_true]
    exact moveRecord_alike destination
  | false => exact .log (.done rfl)

theorem clearTheWay_alike : Alike True limits Eq (clearTheWay config) (clearTheWay config) := by
  refine .log (isRunning_alike.bind_same fun running => ?_)
  cases running with
  | true => exact .log stopSampler_alike
  | false => exact .done rfl

theorem awaitStart_alike : Alike True limits Eq (awaitStart config) (awaitStart config) := by
  refine (pollFrom_alike isRunning_alike _ _).bind_same fun started => ?_
  cases started with
  | true => exact .log (.done rfl)
  | false => exact .log (.done rfl)

theorem processIds_alike (process : String) :
    Alike fails limits Eq (processIds process) (processIds process) := by
  refine .call nofun rfl fun answer answer' h => ?_
  cases h with
  | unreachable => exact .log (.done rfl)
  | ran r =>
    dsimp only [done_bind]
    split
    · exact .done rfl
    · exact .log (.done rfl)

end Session

/-! ## 3. Launches -/

/-- The same progress but for the text of a fault. -/
inductive SameProgress : LaunchProgress → LaunchProgress → Prop
  | notStarted : SameProgress .notStarted .notStarted
  | held {answer answer'} : SameAnswer answer answer' →
      SameProgress (.held answer) (.held answer')
  | finished (output : String) : SameProgress (.finished output) (.finished output)
  | failed (message message' : String) :
      SameProgress (.failed (.unreachable message)) (.failed (.unreachable message'))

/-- **The same launch but for the text of a fault.** -/
structure SameLaunch (l l' : Launch) : Prop where
  command : l.command = l'.command
  progress : SameProgress l.progress l'.progress
  abandoned : l.abandoned = l'.abandoned

namespace Launch

variable {fails : Prop} {limits : Option Binary64 → Prop} {l l' : Launch}

theorem finish_alike (h : SameLaunch l l') {answer answer' : Except Fault ShellResult}
    (ha : SameAnswer answer answer') :
    Alike fails limits SameLaunch (l.finish answer) (l'.finish answer') := by
  cases ha with
  | unreachable => exact .log (.done ⟨h.command, .failed _ _, h.abandoned⟩)
  | ran r =>
    have hlast : Alike fails limits SameLaunch
        (.log ⟨.info, .session, "Simpleperf start command output - " ++ r.output⟩
          (.done { l with progress := .finished r.output }))
        (.log ⟨.info, .session, "Simpleperf start command output - " ++ r.output⟩
          (.done { l' with progress := .finished r.output })) :=
      .log (.done ⟨h.command, .finished _, h.abandoned⟩)
    unfold finish
    by_cases hr : r.ok = true
    · simp only [hr]
      exact hlast
    · simp only [hr]
      exact .log hlast

theorem start_alike (h : SameLaunch l l') {timeout : Option Binary64} (ht : limits timeout) :
    Alike fails limits SameLaunch (l.start timeout) (l'.start timeout) := by
  obtain ⟨command, progress, abandoned⟩ := l
  obtain ⟨command', progress', abandoned'⟩ := l'
  obtain ⟨rfl, hp, rfl⟩ := h
  cases hp with
  | notStarted =>
    -- only a launch that was not started issues its command
    refine .log (.spawn rfl ht fun held answer answer' ha => ?_)
    cases held with
    | true => exact .done ⟨rfl, .held ha, rfl⟩
    | false => exact finish_alike ⟨rfl, .notStarted, rfl⟩ ha
  | held ha => exact .done ⟨rfl, .held ha, rfl⟩
  | finished output => exact .done ⟨rfl, .finished output, rfl⟩
  | failed message message' => exact .done ⟨rfl, .failed message message', rfl⟩

theorem release_alike (h : SameLaunch l l') :
    Alike fails limits SameLaunch l.release l'.release := by
  obtain ⟨command, progress, abandoned⟩ := l
  obtain ⟨command', progress', abandoned'⟩ := l'
  obtain ⟨rfl, hp, rfl⟩ := h
  cases hp with
  | notStarted => exact .done ⟨rfl, .notStarted, rfl⟩
  | @held answer answer' ha =>
    have hl : SameLaunch ⟨command, .held answer, abandoned⟩ ⟨command, .held answer', abandoned⟩ :=
      ⟨rfl, .held ha, rfl⟩
    exact finish_alike hl ha
  | finished output => exact .done ⟨rfl, .finished output, rfl⟩
  | failed message message' => exact .done ⟨rfl, .failed message message', rfl⟩

theorem abandon_same (h : SameLaunch l l') : SameLaunch l.abandon l'.abandon :=
  ⟨h.command, h.progress, rfl⟩

end Launch

namespace Session

variable {fails : Prop} {limits : Option Binary64 → Prop} {config : SamplerConfig}

theorem launchAndWait_alike (command : String)
    (hlimits : ∀ timeout, launchTimeout config = .ok timeout → limits (some timeout)) :
    Alike fails limits (fun x y => SameLaunch x.1 y.1 ∧ SameEnd Eq x.2 y.2)
      (launchAndWait config command) (launchAndWait config command) := by
  have hnew : SameLaunch { command } { command } := ⟨rfl, .notStarted, rfl⟩
  unfold launchAndWait
  dsimp only
  split
  · next fault _ => exact .done ⟨hnew, .error fault⟩
  · next timeout ht =>
    refine (Launch.start_alike hnew (hlimits timeout ht)).bind fun l l' hl => ?_
    exact awaitStart_alike.attempt.bind fun r r' hr => .done ⟨hl, hr⟩

theorem startCollecting_alike (subcommand arguments : String)
    (hlimits : ∀ timeout, launchTimeout config = .ok timeout → limits (some timeout)) :
    Alike fails limits (fun x y => Option.Rel SameLaunch x.1 y.1 ∧ SameEnd Eq x.2 y.2)
      (startCollecting config subcommand arguments)
      (startCollecting config subcommand arguments) := by
  refine clearTheWay_alike.attempt.bind fun r r' hr => ?_
  cases hr with
  | error fault => exact .done ⟨.none, .error fault⟩
  | @ok clear clear' hclear =>
    subst hclear
    cases clear with
    | false => exact .done ⟨.none, .ok rfl⟩
    | true =>
      refine .log ((launchAndWait_alike _ hlimits).bind ?_)
      rintro ⟨l, r⟩ ⟨l', r'⟩ ⟨hl, hr⟩
      exact .done ⟨.some hl, hr⟩

end Session

/-! ## 4. Reports -/

/-- The same end of a run of reports but for the text of a fault. -/
inductive SameRunFault : RunFault → RunFault → Prop
  | unreachable (message message' : String) :
      SameRunFault (.unreachable message) (.unreachable message')
  | same (f : RunFault) : SameRunFault f f

/-- **The same metrics, both complete or neither,** and the same end but for the text of a fault. -/
structure SameReport (r r' : RunReport) : Prop where
  metrics : r.metrics = r'.metrics
  complete : r.complete = r'.complete
  fault : Option.Rel SameRunFault r.fault r'.fault

theorem SameReport.refl (r : RunReport) : SameReport r r := by
  obtain ⟨m, fault⟩ := r
  refine ⟨rfl, rfl, ?_⟩
  cases fault with
  | none => exact .none
  | some f => exact .some (.same f)

namespace Session

variable {limits : Option Binary64 → Prop} {config : SamplerConfig} {record : String}
variable {wanted : List String}

theorem readReport_alike (text process : String) :
    Alike True limits Eq (readReport text process wanted) (readReport text process wanted) := by
  unfold readReport
  split
  · exact .fail _ trivial
  · split
    · exact .done rfl
    · exact .log (.done rfl)

theorem cannotGenerate_alike (message message' : String) :
    Alike True limits SameReport (processReport.cannotGenerate message)
      (processReport.cannotGenerate message') :=
  .log (.done ⟨rfl, rfl, .some (.unreachable message message')⟩)

theorem processReport_alike (process pids : String) :
    Alike True limits SameReport (processReport config record wanted process pids)
      (processReport config record wanted process pids) := by
  refine .call nofun rfl fun answer answer' h => ?_
  cases h with
  | unreachable message message' => exact cannotGenerate_alike message message'
  | ran written =>
    dsimp only [done_bind]
    split
    · exact .log (.done (SameReport.refl _))
    · refine .call nofun rfl fun answer answer' h => ?_
      cases h with
      | unreachable message message' => exact cannotGenerate_alike message message'
      | ran text =>
        dsimp only [done_bind]
        split
        · exact .log (.done (SameReport.refl _))
        · exact (readReport_alike _ _).bind_same fun parsed => .done (SameReport.refl _)

theorem reportRunFrom_alike : ∀ (gathered : Metrics) (processes : List (String × String)),
    Alike True limits SameReport (reportRunFrom config record wanted gathered processes)
      (reportRunFrom config record wanted gathered processes)
  | gathered, [] => .log (.done (SameReport.refl _))
  | gathered, (process, pids) :: rest => by
    refine (processReport_alike process pids).bind ?_
    -- whether a process failed is the same, so both runs go on or neither does
    rintro ⟨m, fault⟩ ⟨m', fault'⟩ ⟨rfl, -, hf⟩
    cases hf with
    | none => exact reportRunFrom_alike _ rest
    | some hf => exact .done ⟨rfl, rfl, .some hf⟩

theorem reportMetrics_alike (processes : List (String × String)) :
    Alike True limits Eq (reportMetrics config record processes wanted)
      (reportMetrics config record processes wanted) :=
  (reportRunFrom_alike {} processes).bind fun _ _ h => .done h.metrics

end Session

/-! ## 5. Steps of a session -/

/-- **The same launches but for the texts of faults.** -/
structure SameState (s s' : SessionState) : Prop where
  launches : List.Forall₂ SameLaunch s.launches s'.launches
  held : s.held = s'.held
  current : s.current = s'.current
  own : s.own = s'.own

/-- Related lists have related members. -/
theorem rel_getElem? {α β : Type} {R : α → β → Prop} {xs : List α} {ys : List β}
    (h : List.Forall₂ R xs ys) (i : Nat) : Option.Rel R xs[i]? ys[i]? := by
  induction h generalizing i with
  | nil => exact .none
  | cons hab _ ih =>
    cases i with
    | zero => exact .some hab
    | succ i => exact ih i

theorem forall₂_set {α β : Type} {R : α → β → Prop} {xs : List α} {ys : List β}
    (h : List.Forall₂ R xs ys) (i : Nat) {a : α} {b : β} (hab : R a b) :
    List.Forall₂ R (xs.set i a) (ys.set i b) := by
  induction h generalizing i with
  | nil => exact .nil
  | cons hxy hrest ih =>
    cases i with
    | zero => exact .cons hab hrest
    | succ i => exact .cons hxy (ih i)

namespace SameState

variable {s s' : SessionState} {l l' : Launch}

theorem noteHeld (h : SameState s s') (index : Nat) (hl : SameLaunch l l') :
    SameState (s.noteHeld index l) (s'.noteHeld index l') := by
  have hp := hl.progress
  unfold SessionState.noteHeld
  generalize l.progress = progress at hp ⊢
  generalize l'.progress = progress' at hp ⊢
  cases hp with
  | notStarted | finished | failed => exact h
  | held =>
    dsimp only
    rw [h.held]
    split
    · exact h
    · exact ⟨h.launches, rfl, h.current, h.own⟩

theorem withLaunches (h : SameState s s') {ls ls' : List Launch}
    (hls : List.Forall₂ SameLaunch ls ls') :
    SameState { s with launches := ls } { s' with launches := ls' } :=
  ⟨hls, h.held, h.current, h.own⟩

theorem add (h : SameState s s') (hl : SameLaunch l l') : SameState (s.add l) (s'.add l') := by
  have hlength : s.launches.length = s'.launches.length := h.launches.length_eq
  unfold SessionState.add
  rw [hlength]
  exact (h.withLaunches (List.rel_append h.launches (.cons hl .nil))).noteHeld _ hl

theorem replace (h : SameState s s') (index : Nat) (hl : SameLaunch l l') :
    SameState (s.replace index l) (s'.replace index l') :=
  (h.withLaunches (forall₂_set h.launches index hl)).noteHeld index hl

/-- The same launch is handled. -/
theorem handled? (h : SameState s s') :
    Option.Rel (fun x y => x.1 = y.1 ∧ SameLaunch x.2 y.2) s.handled? s'.handled? := by
  unfold SessionState.handled?
  rw [h.own, h.current]
  cases (s'.own <|> s'.current) with
  | none => exact .none
  | some index =>
    have hl := rel_getElem? h.launches index
    simp only [Option.bind_some]
    generalize s.launches[index]? = x at hl ⊢
    generalize s'.launches[index]? = y at hl ⊢
    cases hl with
    | none => exact .none
    | some hl => exact .some ⟨rfl, hl⟩

end SameState

/-- The same result of an operation but for the text of a fault. -/
inductive SameResult : OperationResult → OperationResult → Prop
  | flag (b : Bool) : SameResult (.flag b) (.flag b)
  | ids (text : String) : SameResult (.ids text) (.ids text)
  | report {r r'} : SameReport r r' → SameResult (.report r) (.report r')

/-- **The same result of a step** but for the text of a fault. -/
inductive SameStepResult : StepResult → StepResult → Prop
  | operation {r r'} : SameEnd SameResult r r' → SameStepResult (.operation r) (.operation r')
  | metrics (r : Except Fault Metrics) : SameStepResult (.metrics r) (.metrics r)
  | released (n : Nat) : SameStepResult (.released n) (.released n)

section Steps

variable {fails : Prop} {limits : Option Binary64 → Prop} {config : SamplerConfig}
variable {s s' : SessionState}

theorem Operation.perform_alike (o : Operation) (h : SameState s s')
    (hlimits : ∀ timeout, Session.launchTimeout config = .ok timeout → limits (some timeout)) :
    Alike fails limits (fun x y => SameState x.1 y.1 ∧ SameEnd SameResult x.2 y.2)
      (o.perform config s) (o.perform config s') := by
  have hflag : ∀ {r r' : Except Fault Bool}, SameEnd Eq r r' →
      SameEnd SameResult (r.map .flag) (r'.map .flag) :=
    fun hr => hr.map fun b _ he => he ▸ .flag b
  cases o with
  | startCollecting subcommand arguments =>
    refine (Session.startCollecting_alike subcommand arguments hlimits).bind ?_
    rintro ⟨launch, r⟩ ⟨launch', r'⟩ ⟨hl, hr⟩
    cases hl with
    | none => exact .done ⟨h, hflag hr⟩
    | some hl =>
      have hadd := h.add hl
      refine .done ⟨⟨hadd.launches, hadd.held, ?_, hadd.own⟩, hflag hr⟩
      exact congrArg some h.launches.length_eq
  | stopCollecting destination =>
    exact (Session.stopCollecting_alike destination).attempt.bind fun _ _ hr => .done ⟨h, hflag hr⟩
  | stopSampler =>
    exact Session.stopSampler_alike.attempt.bind fun _ _ hr => .done ⟨h, hflag hr⟩
  | isRunning =>
    have hrunning : Alike True limits Eq (Session.isRunning config) (Session.isRunning config) :=
      Session.isRunning_alike
    exact hrunning.attempt.bind fun _ _ hr => .done ⟨h, hflag hr⟩
  | processIds process =>
    have hids : Alike True limits Eq (Session.processIds process) (Session.processIds process) :=
      Session.processIds_alike process
    exact hids.attempt.bind fun _ _ hr =>
      .done ⟨h, hr.map fun text _ he => he ▸ .ids text⟩
  | report record processes wanted =>
    exact (Session.reportRunFrom_alike {} processes).attempt.bind fun _ _ hr =>
      .done ⟨h, hr.map fun _ _ hr => .report hr⟩

theorem releaseAll_alike : ∀ (indices : List Nat) {s s' : SessionState}, SameState s s' →
    Alike fails limits SameState (releaseAll s indices) (releaseAll s' indices)
  | [], _, _, h => .done h
  | index :: rest, s, s', h => by
    have hl := rel_getElem? h.launches index
    unfold releaseAll
    generalize s.launches[index]? = x at hl ⊢
    generalize s'.launches[index]? = y at hl ⊢
    cases hl with
    | none => exact releaseAll_alike rest h
    | some hl =>
      exact (Launch.release_alike hl).bind fun _ _ hl => releaseAll_alike rest (h.replace index hl)

theorem LaunchStep.perform_alike (step : LaunchStep) (h : SameState s s')
    (hlimits : ∀ timeout, step = .start timeout → limits timeout) :
    Alike fails limits (fun x y => SameState x.1 y.1 ∧ x.2 = y.2) (step.perform s)
      (step.perform s') := by
  have hhandled := h.handled?
  cases step with
  | make command =>
    have hnew : SameLaunch { command } { command } := ⟨rfl, .notStarted, rfl⟩
    have hadd := h.add hnew
    refine .done ⟨⟨hadd.launches, hadd.held, hadd.current, ?_⟩, rfl⟩
    exact congrArg some h.launches.length_eq
  | start timeout =>
    unfold LaunchStep.perform
    generalize s.handled? = x at hhandled ⊢
    generalize s'.handled? = y at hhandled ⊢
    cases hhandled with
    | none => exact .done ⟨h, rfl⟩
    | @some x y hxy =>
      obtain ⟨index, l⟩ := x
      obtain ⟨index', l'⟩ := y
      obtain ⟨rfl, hl⟩ := hxy
      exact (Launch.start_alike hl (hlimits timeout rfl)).bind fun _ _ hl =>
        .done ⟨h.replace index hl, rfl⟩
  | abandon =>
    unfold LaunchStep.perform
    generalize s.handled? = x at hhandled ⊢
    generalize s'.handled? = y at hhandled ⊢
    cases hhandled with
    | none => exact .done ⟨h, rfl⟩
    | @some x y hxy =>
      obtain ⟨index, l⟩ := x
      obtain ⟨index', l'⟩ := y
      obtain ⟨rfl, hl⟩ := hxy
      exact .done ⟨h.replace index (Launch.abandon_same hl), rfl⟩
  | release =>
    have hnone : SameState { s with held := [] } { s' with held := [] } :=
      ⟨h.launches, rfl, h.current, h.own⟩
    unfold LaunchStep.perform
    rw [h.held]
    exact (releaseAll_alike s'.held hnone).bind fun _ _ hs => .done ⟨hs, rfl⟩

/-- **A step of a session does the same.** -/
theorem SessionStep.perform_alike (step : SessionStep) (h : SameState s s')
    (hconfig : ∀ timeout, Session.launchTimeout config = .ok timeout → limits (some timeout))
    (hgiven : ∀ timeout, step = .launch (.start timeout) → limits timeout) :
    Alike fails limits (fun x y => SameState x.1 y.1 ∧ SameStepResult x.2 y.2)
      (step.perform config s) (step.perform config s') := by
  cases step with
  | operation o =>
    exact (o.perform_alike h hconfig).bind fun _ _ hr => .done ⟨hr.1, .operation hr.2⟩
  | metrics record processes wanted =>
    refine (Session.reportMetrics_alike processes).attempt.bind fun r r' hr => ?_
    cases hr with
    | @ok m m' hm =>
      subst hm
      exact .done ⟨h, .metrics _⟩
    | error fault => exact .done ⟨h, .metrics _⟩
  | launch step =>
    refine (step.perform_alike h fun timeout ht => hgiven timeout (congrArg _ ht)).bind ?_
    rintro ⟨t, n⟩ ⟨t', n'⟩ ⟨ht, rfl⟩
    exact .done ⟨ht, .released n⟩

/-- **All steps of a session do the same,** and never fail. -/
theorem performSession_alike
    (hconfig : ∀ timeout, Session.launchTimeout config = .ok timeout → limits (some timeout)) :
    ∀ (steps : List SessionStep) {s s' : SessionState},
      (∀ timeout, .launch (.start timeout) ∈ steps → limits timeout) → SameState s s' →
      Alike fails limits (fun x y => SameState x.1 y.1 ∧ List.Forall₂ SameStepResult x.2 y.2)
        (performSession config s steps) (performSession config s' steps)
  | [], _, _, _, h => .done ⟨h, .nil⟩
  | step :: rest, s, s', hgiven, h => by
    refine (step.perform_alike h hconfig fun timeout ht =>
      hgiven timeout (ht ▸ List.mem_cons_self)).bind ?_
    rintro ⟨t, r⟩ ⟨t', r'⟩ ⟨ht, hr⟩
    refine (performSession_alike hconfig rest
      (fun timeout hm => hgiven timeout (List.mem_cons_of_mem _ hm)) ht).bind ?_
    rintro ⟨u, rs⟩ ⟨u', rs'⟩ ⟨hu, hrs⟩
    exact .done ⟨hu, .cons hr hrs⟩

end Steps

end DeviceSampling
