/-
# No command without its reason

A session issues its commands for a reason that the device gave it just before: it interrupts a
sampler only right after it saw it run, starts one only right after it saw none, and moves a
record only after a stop that ended with a check that saw none.  This holds over any sequence
of operations, on any device, however it answers.

* `Licensed`: what must stand before a command;
* `Orderly`: every command of a sequence is licensed by those before it;
* one lemma for each operation, and `commands_licensed`: **every run is orderly**.
-/
import DeviceSampling.Proofs.ReportTraces
import DeviceSampling.Session.Operation

namespace DeviceSampling
namespace Session

open Dialog

variable {config : SamplerConfig}

/-! ## 1. Commands -/

/-- A command that was issued, with its answer. -/
structure Issued where
  call : ShellCall
  answer : Except Fault ShellResult

/-- The command of an event, if it is one. -/
def issued? : Deed → Option Issued
  | .called c a => some ⟨c, a⟩
  | .spawned c _ a => some ⟨c, a⟩
  | _ => none

/-- The commands among the events of a run, those of workers included. -/
def commands (es : List Deed) : List Issued := es.filterMap issued?

@[simp] theorem commands_append (es fs : List Deed) :
    commands (es ++ fs) = commands es ++ commands fs := List.filterMap_append

/-- Log records are no commands. -/
theorem commands_deeds (es : List Deed) : commands (deeds es) = commands es := by
  unfold commands deeds
  rw [List.filterMap_filter]
  congr 1
  funext e
  cases e <;> rfl

/-! ## 2. Licences -/

/-- The command is a running check. -/
def Issued.IsCheck (config : SamplerConfig) (i : Issued) : Prop :=
  i.call = ⟨.runningCheck, config.runningCommand, none⟩

/-- The command is an interrupt. -/
def Issued.IsInterrupt (config : SamplerConfig) (i : Issued) : Prop :=
  i.call = ⟨.interrupt, config.interruptCommand, none⟩

/-- The command ran and succeeded. -/
def Issued.Succeeded (i : Issued) : Prop := ∃ r, i.answer = .ok r ∧ r.code = 0

/-- The command ran, and succeeded or failed without a word. -/
def Issued.Tolerated (i : Issued) : Prop :=
  ∃ r, i.answer = .ok r ∧ (r.code = 0 ∨ Text.AllBlank r.errors.toList)

/-- The command ran, succeeded and printed blanks at most. -/
def Issued.Quiet (i : Issued) : Prop :=
  ∃ r, i.answer = .ok r ∧ r.code = 0 ∧ Text.AllBlank r.output.toList ∧
    Text.AllBlank r.errors.toList

/-- The sequence ends with a running check, positive or negative as asked. -/
def EndsChecked (config : SamplerConfig) (positive : Prop) (is : List Issued) : Prop :=
  ∃ earlier last, is = earlier ++ [last] ∧ last.IsCheck config ∧ (Positive last.answer ↔ positive)

/-- The sequence ends with a stop that succeeded: a positive running check, an interrupt that was
taken, further positive checks, and a negative one. -/
def EndsStopped (config : SamplerConfig) (is : List Issued) : Prop :=
  ∃ earlier first told waiting last, is = earlier ++ first :: told :: waiting ++ [last] ∧
    first.IsCheck config ∧ Positive first.answer ∧ told.IsInterrupt config ∧ told.Tolerated ∧
    (∀ w ∈ waiting, w.IsCheck config ∧ Positive w.answer) ∧
    last.IsCheck config ∧ ¬ Positive last.answer

/-- The sequence ends with a stop that succeeded, and then with the directory of the destination
made quietly, if one is named. -/
inductive ReadyToMove (config : SamplerConfig) (destination : String) : List Issued → Prop
  | directly {is} : (Shell.directory destination).isEmpty = true → EndsStopped config is →
      ReadyToMove config destination is
  | made {is made} : (Shell.directory destination).isEmpty = false → EndsStopped config is →
      made.call = ⟨.makeDirectory, makeDirectoryCommand (Shell.directory destination), none⟩ →
      made.Quiet → ReadyToMove config destination (is ++ [made])

/-- **What must stand before a command,** by what it is issued for. -/
def Licensed (config : SamplerConfig) (before : List Issued) (i : Issued) : Prop :=
  match i.call.purpose with
  | .runningCheck => i.IsCheck config
  | .interrupt => i.IsInterrupt config ∧ EndsChecked config True before
  | .start => EndsChecked config False before
  | .makeDirectory => EndsStopped config before
  | .move => ∃ destination, i.call = ⟨.move, config.moveCommand destination, none⟩ ∧
      ReadyToMove config destination before
  | .readReport => ∃ earlier report, before = earlier ++ [report] ∧
      report.call.purpose = .report ∧ report.Succeeded
  | .report | .lookUp => True

/-- Every command is licensed by those before it. -/
def Orderly (config : SamplerConfig) (is : List Issued) : Prop :=
  ∀ before i after, is = before ++ i :: after → Licensed config before i

theorem EndsChecked.prepend {positive : Prop} {is : List Issued} (front : List Issued)
    (h : EndsChecked config positive is) : EndsChecked config positive (front ++ is) := by
  obtain ⟨earlier, last, rfl, hl⟩ := h
  exact ⟨front ++ earlier, last, (List.append_assoc _ _ _).symm, hl⟩

theorem EndsStopped.prepend {is : List Issued} (front : List Issued)
    (h : EndsStopped config is) : EndsStopped config (front ++ is) := by
  obtain ⟨earlier, first, told, waiting, last, rfl, hl⟩ := h
  refine ⟨front ++ earlier, first, told, waiting, last, ?_, hl⟩
  simp only [List.append_assoc]

theorem ReadyToMove.prepend {destination : String} {is : List Issued} (front : List Issued)
    (h : ReadyToMove config destination is) : ReadyToMove config destination (front ++ is) := by
  cases h with
  | directly hd hs => exact .directly hd (hs.prepend front)
  | made hd hs hm hq =>
    rw [← List.append_assoc]
    exact .made hd (hs.prepend front) hm hq

/-- A stop that succeeded ends with a negative check. -/
theorem EndsStopped.endsChecked {is : List Issued} (h : EndsStopped config is) :
    EndsChecked config False is := by
  obtain ⟨earlier, first, told, waiting, last, rfl, -, -, -, -, -, hl, hn⟩ := h
  exact ⟨earlier ++ first :: told :: waiting, last, rfl, hl, iff_of_false hn id⟩

/-- Earlier commands take no licence away: a licence looks at the end of what came before. -/
theorem Licensed.prepend {before : List Issued} {i : Issued} (front : List Issued)
    (h : Licensed config before i) : Licensed config (front ++ before) i := by
  unfold Licensed at h ⊢
  split at h
  · exact h
  · exact ⟨h.1, h.2.prepend front⟩
  · exact h.prepend front
  · exact h.prepend front
  · obtain ⟨destination, hc, h⟩ := h
    exact ⟨destination, hc, h.prepend front⟩
  · obtain ⟨earlier, report, rfl, hp, hs⟩ := h
    exact ⟨front ++ earlier, report, (List.append_assoc _ _ _).symm, hp, hs⟩
  · trivial
  · trivial

/-! ## 3. Orderly sequences -/

theorem orderly_nil : Orderly config [] := by
  intro before i after h
  exact absurd h.symm (List.append_ne_nil_of_right_ne_nil _ (List.cons_ne_nil _ _))

/-- **Orderly sequences follow each other.** -/
theorem Orderly.append {is js : List Issued} (hi : Orderly config is) (hj : Orderly config js) :
    Orderly config (is ++ js) := by
  intro before i after h
  rcases List.append_eq_append_iff.1 h with ⟨mid, hm, hjs⟩ | ⟨mid, hm, hjs⟩
  · -- the command is in the second part
    rw [hm]
    exact (hj mid i after hjs).prepend is
  · cases mid with
    | nil =>
      rw [List.append_nil] at hm
      have h0 := hj [] i after hjs.symm
      rw [← hm, ← List.append_nil is]
      exact h0.prepend is
    | cons j mid =>
      rw [List.cons_append, List.cons.injEq] at hjs
      obtain ⟨rfl, -⟩ := hjs
      exact hi before _ mid hm

/-- A licensed command may follow an orderly sequence. -/
theorem Orderly.snoc {is : List Issued} {i : Issued} (hi : Orderly config is)
    (h : Licensed config is i) : Orderly config (is ++ [i]) := by
  intro before j after hj
  rcases List.eq_nil_or_concat after with rfl | ⟨after', k, rfl⟩
  · obtain ⟨hb, hj⟩ := List.append_inj' hj rfl
    rw [← hb, ← List.singleton_inj.1 hj]
    exact h
  · rw [List.concat_eq_append, ← List.cons_append, ← List.append_assoc] at hj
    exact hi before j after' (List.append_inj' hj rfl).1

/-- A single command that needs nothing before it. -/
theorem orderly_singleton {i : Issued} (h : Licensed config [] i) : Orderly config [i] :=
  orderly_nil.snoc h

/-! ## 4. Checks and polls -/

theorem isCheck_check (a : Except Fault ShellResult) :
    Issued.IsCheck config ⟨⟨.runningCheck, config.runningCommand, none⟩, a⟩ := rfl

/-- Running checks need nothing before them. -/
theorem orderly_of_checks {is : List Issued} (h : ∀ i ∈ is, i.IsCheck config) :
    Orderly config is := by
  intro before i after hi
  have hc := h i (by rw [hi]; exact List.mem_append_right _ List.mem_cons_self)
  unfold Licensed
  rw [hc]
  exact hc

/-- A poll issues running checks only. -/
theorem isCheck_of_pollGoes {goal : Bool} {delay : Binary64} {left : Nat} {es : List Deed}
    {r : Except Fault Bool} (h : PollGoes (CheckRound config goal) delay left es r) :
    ∀ i ∈ commands es, i.IsCheck config := by
  have hround : ∀ {es : List Deed} {r : Except Fault Bool}, CheckRound config goal es r →
      ∀ i ∈ commands es, i.IsCheck config := by
    rintro es r ⟨a, rfl, -⟩ i hi
    rw [List.mem_singleton.1 hi]
    exact isCheck_check a
  induction h with
  | met h => exact hround h
  | spent h => exact hround h
  | again h _ ih =>
    intro i hi
    rw [commands_append] at hi
    rcases List.mem_append.1 hi with hi | hi
    · exact hround h i hi
    · exact ih i hi
  | interrupted h =>
    intro i hi
    rw [commands_append] at hi
    rcases List.mem_append.1 hi with hi | hi
    · exact hround h i hi
    · exact absurd hi List.not_mem_nil
  | failed h => exact hround h

/-- **A poll for the end of the sampler that succeeds** has seen it run until its last check. -/
theorem commands_of_stopped {delay : Binary64} {left : Nat} {es : List Deed}
    {r : Except Fault Bool} (h : PollGoes (CheckRound config false) delay left es r)
    (hr : r = .ok true) :
    ∃ waiting last, commands es = waiting ++ [last] ∧
      (∀ w ∈ waiting, w.IsCheck config ∧ Positive w.answer) ∧
      last.IsCheck config ∧ ¬ Positive last.answer := by
  induction h with
  | met h =>
    obtain ⟨a, rfl, ha⟩ := checkRound_ok h
    refine ⟨[], _, rfl, fun w hw => absurd hw List.not_mem_nil, isCheck_check a, ?_⟩
    exact not_positive_of_checkEnd (by rw [ha]; exact fun h => by cases h)
  | spent h => cases hr
  | again h _ ih =>
    obtain ⟨a, rfl, ha⟩ := checkRound_ok h
    obtain ⟨waiting, last, hc, hw, hl⟩ := ih hr
    refine ⟨⟨⟨.runningCheck, config.runningCommand, none⟩, a⟩ :: waiting, last, ?_, ?_, hl⟩
    · rw [commands_append, List.cons_append, ← hc]
      rfl
    · intro w hm
      rcases List.mem_cons.1 hm with rfl | hm
      · exact ⟨isCheck_check a, positive_of_checkEnd ha⟩
      · exact hw w hm
  | interrupted h => cases hr
  | failed h => cases hr

/-! ## 5. The operations -/

/-- An interrupt that did not end the stop was taken. -/
theorem tolerated_of_interruptEnd {c : ShellCall} {b : Except Fault ShellResult}
    (h : interruptEnd? b = none) : Issued.Tolerated ⟨c, b⟩ := by
  match b with
  | .error f => cases f <;> cases h
  | .ok r =>
    refine ⟨r, rfl, ?_⟩
    simp only [interruptEnd?] at h
    split at h
    · cases h
    · next hf =>
      rw [Bool.and_eq_true, not_and_or, Bool.not_eq_true', Bool.not_eq_false, Bool.not_eq_true',
        Bool.not_eq_false] at hf
      rcases hf with hf | hf
      · exact Or.inl (of_decide_eq_true hf)
      · exact Or.inr (List.all_eq_true.1 hf)

/-- A check and the interrupt right after it. -/
theorem orderly_interrupt {a b : Except Fault ShellResult} (ha : checkEnd a = .ok true) :
    Orderly config (commands [check config a, interrupt config b]) := by
  have hcheck : Orderly config [⟨⟨.runningCheck, config.runningCommand, none⟩, a⟩] :=
    orderly_singleton (isCheck_check a)
  refine hcheck.snoc ⟨rfl, [], _, rfl, isCheck_check a, ?_⟩
  exact iff_of_true (positive_of_checkEnd ha) trivial

/-- **A stop is orderly,** and one that succeeds ends as it should. -/
theorem orderly_of_stops {es : List Deed} {r : Except Fault Bool} (h : Stops config es r) :
    Orderly config (commands es) ∧ (r = .ok true → EndsStopped config (commands es)) := by
  cases h with
  | notRunning _ hr => exact ⟨orderly_singleton (isCheck_check _), fun h => absurd h hr⟩
  | @notTold a b r ha hb =>
    refine ⟨orderly_interrupt ha, ?_⟩
    rintro rfl
    match b with
    | .error f => cases f <;> cases hb
    | .ok r =>
      simp only [interruptEnd?] at hb
      split at hb <;> cases hb
  | @awaited a b polled r ha hb hp =>
    have hpoll := orderly_of_checks (isCheck_of_pollGoes hp)
    refine ⟨(orderly_interrupt ha).append hpoll, fun hr => ?_⟩
    obtain ⟨waiting, last, hc, hw, hl, hn⟩ := commands_of_stopped hp hr
    refine ⟨[], ⟨_, a⟩, ⟨_, b⟩, waiting, last, ?_, isCheck_check a, positive_of_checkEnd ha, rfl,
      tolerated_of_interruptEnd hb, hw, hl, hn⟩
    rw [List.append_assoc, List.cons_append, List.cons_append, ← hc]
    rfl

/-- A command that did its work quietly. -/
theorem quiet_of_commandEnd {c : ShellCall} {a : Except Fault ShellResult}
    (h : commandEnd a = .ok true) : Issued.Quiet ⟨c, a⟩ := by
  match a with
  | .error f => cases f <;> cases h
  | .ok r =>
    have hq : wentQuietly r = true := Except.ok.inj h
    unfold wentQuietly Text.isBlankText ShellResult.printed at hq
    rw [Bool.and_eq_true, String.toList_append, List.all_append, Bool.and_eq_true,
      List.all_eq_true, List.all_eq_true] at hq
    exact ⟨r, rfl, of_decide_eq_true hq.1, hq.2.1, hq.2.2⟩

/-- **The end of a session is orderly.** -/
theorem orderly_of_collects {destination : String} {es : List Deed} {r : Except Fault Bool}
    (h : Collects config destination es r) : Orderly config (commands es) := by
  cases h with
  | notStopped hs _ => exact (orderly_of_stops hs).1
  | stopped hs hm =>
    obtain ⟨ho, hend⟩ := orderly_of_stops hs
    have hend := hend rfl
    rw [commands_append]
    cases hm with
    | directly hd => exact ho.snoc ⟨destination, rfl, .directly hd hend⟩
    | notMade _ _ _ => exact ho.snoc hend
    | @made a b hd ha =>
      have hmade : Orderly config (commands _ ++
          [⟨⟨.makeDirectory, makeDirectoryCommand (Shell.directory destination), none⟩, a⟩]) :=
        ho.snoc hend
      have hmove := hmade.snoc (i := ⟨⟨.move, config.moveCommand destination, none⟩, b⟩)
        ⟨destination, rfl, .made hd hend rfl (quiet_of_commandEnd ha)⟩
      rw [List.append_assoc] at hmove
      exact hmove

/-- **The way is cleared in order,** and when it is clear the last check was negative. -/
theorem orderly_of_clears {es : List Deed} {r : Except Fault Bool} (h : Clears config es r) :
    Orderly config (commands es) ∧ (r = .ok true → EndsChecked config False (commands es)) := by
  cases h with
  | @free a ha =>
    refine ⟨orderly_singleton (isCheck_check a), fun _ => ⟨[], _, rfl, isCheck_check a, ?_⟩⟩
    exact iff_of_false (not_positive_of_checkEnd (by rw [ha]; exact fun h => by cases h)) id
  | @stopped a es r ha hs =>
    obtain ⟨ho, hend⟩ := orderly_of_stops hs
    have hcheck : Orderly config [⟨⟨.runningCheck, config.runningCommand, none⟩, a⟩] :=
      orderly_singleton (isCheck_check a)
    exact ⟨hcheck.append ho, fun hr => (hend hr).endsChecked.prepend [_]⟩
  | @failed a f _ => exact ⟨orderly_singleton (isCheck_check a), fun hr => by cases hr⟩

/-- **A start is orderly.** -/
theorem orderly_of_starts {subcommand arguments : String} {es : List Deed}
    {r : Except Fault (Option Launch × Except Fault Bool)}
    (h : Starts config subcommand arguments es r) : Orderly config (commands es) := by
  cases h with
  | notCleared hc _ => exact (orderly_of_clears hc).1
  | noLimit hc _ => exact (orderly_of_clears hc).1
  | @launched es polled timeout held answer r hc _ hp =>
    obtain ⟨ho, hend⟩ := orderly_of_clears hc
    have hstart := ho.snoc
      (i := ⟨⟨.start, config.startCommand subcommand arguments, some timeout⟩, answer⟩) (hend rfl)
    have hall := hstart.append (orderly_of_checks (isCheck_of_pollGoes hp))
    rw [List.append_assoc] at hall
    rw [commands_append]
    exact hall

/-- A report command alone. -/
theorem orderly_written {record pids : String} {a : Except Fault ShellResult} :
    Orderly config (commands [written config record pids a]) := orderly_singleton trivial

/-- A report command that succeeded, and the reading of the report. -/
theorem orderly_shown {record pids : String} {w : ShellResult} {a : Except Fault ShellResult}
    (hw : w.ok = true) :
    Orderly config (commands [written config record pids (.ok w), shown record a]) :=
  orderly_written.snoc ⟨[], _, rfl, rfl, w, rfl, of_decide_eq_true hw⟩

/-- **A run of reports is orderly.** -/
theorem orderly_of_reportRun {record : String} {wanted : List String}
    {processes : List (String × String)} {es : List Deed} {r : Except Fault RunReport}
    (h : (reportRun config record processes wanted).MayGo es r) :
    Orderly config (commands es) := by
  obtain ⟨visits, rest, last, -, rfl, hall, hend⟩ := reportRunFrom_mayGo h
  have hvisits : ∀ visits : List Visit, (∀ v ∈ visits, Visit.Complete wanted v) →
      Orderly config (commands (visits.flatMap (Visit.deeds config record))) := by
    intro visits
    induction visits with
    | nil => exact fun _ => orderly_nil
    | cons v visits ih =>
      intro hv
      rw [List.flatMap_cons, commands_append]
      exact (orderly_shown (hv v List.mem_cons_self).1).append
        (ih fun v' h => hv v' (List.mem_cons_of_mem _ h))
  rw [commands_append]
  refine (hvisits visits hall).append ?_
  cases hend with
  | finished => exact orderly_nil
  | failed hf =>
    cases hf with
    | reportUnreachable => exact orderly_written
    | reportFailed _ => exact orderly_written
    | readUnreachable hw => exact orderly_shown hw
    | readFailed hw _ => exact orderly_shown hw
    | malformed hw _ _ => exact orderly_shown hw
  | broken hb =>
    cases hb with
    | report _ => exact orderly_written
    | read hw _ => exact orderly_shown hw
    | overflow hw _ _ => exact orderly_shown hw

end Session

/-! ## 6. Whole runs -/

open Dialog Session

variable {config : SamplerConfig}

/-- What is attempted does its deeds, whatever is made of its end. -/
theorem exists_mayGo_of_attempt {α β : Type} {d : Session α} {g : Except Fault α → β}
    {es : List Deed} {r : Except Fault β}
    (h : (d.attempt.bind fun a => .done (g a) : Session β).MayGo es r) : ∃ r', d.MayGo es r' := by
  rcases mayGo_bind.1 h with ⟨a, front, rest, rfl, hd, rfl, -⟩ | ⟨f, -, hd⟩
  · obtain ⟨r', -, hd⟩ := mayGo_attempt.1 hd
    rw [List.append_nil]
    exact ⟨r', hd⟩
  · obtain ⟨r', -, hd⟩ := mayGo_attempt.1 hd
    exact ⟨r', hd⟩

/-- **Every operation is orderly.** -/
theorem orderly_of_perform {s : SessionState} {o : Operation} {es : List Deed}
    {r : Except Fault (SessionState × Except Fault OperationResult)}
    (h : (o.perform config s).MayGo es r) : Orderly config (commands es) := by
  cases o with
  | startCollecting subcommand arguments =>
    rcases mayGo_bind.1 h with ⟨_, front, rest, rfl, hs, rfl, -⟩ | ⟨f, -, hs⟩
    · rw [List.append_nil]
      exact orderly_of_starts (startCollecting_mayGo hs)
    · exact orderly_of_starts (startCollecting_mayGo hs)
  | stopCollecting destination =>
    obtain ⟨r', hd⟩ := exists_mayGo_of_attempt h
    exact orderly_of_collects (stopCollecting_mayGo hd)
  | stopSampler =>
    obtain ⟨r', hd⟩ := exists_mayGo_of_attempt h
    exact (orderly_of_stops (stopSampler_mayGo hd)).1
  | isRunning =>
    obtain ⟨r', hd⟩ := exists_mayGo_of_attempt h
    obtain ⟨a, rfl, -⟩ := isRunning_mayGo.1 hd
    exact orderly_singleton (isCheck_check a)
  | processIds process =>
    obtain ⟨r', hd⟩ := exists_mayGo_of_attempt h
    obtain ⟨a, -, rfl, -⟩ := processIds_mayGo hd
    exact orderly_singleton trivial
  | report record processes wanted =>
    obtain ⟨r', hd⟩ := exists_mayGo_of_attempt h
    exact orderly_of_reportRun hd

/-- A sequence of operations is orderly, because each of them is. -/
theorem orderly_of_performAll : ∀ {operations : List Operation} {s : SessionState}
    {es : List Deed} {r : Except Fault (SessionState × List (Except Fault OperationResult))},
    (performAll config s operations).MayGo es r → Orderly config (commands es)
  | [], _, es, r, h => by
    obtain ⟨rfl, -⟩ := h
    exact orderly_nil
  | o :: rest, s, es, r, h => by
    rcases mayGo_bind.1 h with ⟨p, front, tail, rfl, ho, hk⟩ | ⟨f, -, ho⟩
    · rw [commands_append]
      refine (orderly_of_perform ho).append ?_
      rcases mayGo_bind.1 hk with ⟨q, front', tail', rfl, hr, rfl, -⟩ | ⟨f, -, hr⟩
      · rw [List.append_nil]
        exact orderly_of_performAll hr
      · exact orderly_of_performAll hr
    · exact orderly_of_perform ho

/-- **No command is issued without its reason.**  Whatever the device answers, whatever the
settings and whichever operations follow each other, every command of the run is licensed by
those before it. -/
theorem commands_licensed {σ : Type} (w : World ShellCall ShellAnswer σ) (world : σ)
    (config : SamplerConfig) (s : SessionState) (operations : List Operation) :
    Orderly config (commands ((performAll config s operations).run w world).events) := by
  have h := orderly_of_performAll (run_mayGo w (performAll config s operations) world)
  rwa [commands_deeds] at h

/-- A device that runs the sampler from its start to its interrupt. -/
def plainDevice : World ShellCall ShellAnswer Bool where
  call c runs :=
    match c.purpose with
    | .runningCheck => (.ok (if runs then { output := "7 12\n" } else { code := 1 }), runs)
    | .interrupt => (.ok {}, false)
    | _ => (.ok {}, runs)
  spawn _ _ := ((true, .ok {}), true)
  sleep _ runs := (false, runs)

/-- On a plain device commands of every kind are issued, so none of the licences is idle. -/
example :
    (commands ((performAll {} {} [.startCollecting "record" "-a", .stopCollecting "/out/perf.data"]).run
      plainDevice false).events).map (·.call.purpose) =
        [.runningCheck, .start, .runningCheck, .runningCheck, .interrupt, .runningCheck,
          .makeDirectory, .move] := by
  decide +kernel

end DeviceSampling
