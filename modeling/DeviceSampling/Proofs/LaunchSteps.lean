/-
# What a launch does, whatever is done to it

A launch is handled in any order: it is started, started again, abandoned and looked at, and the
device lets its worker go on when it likes.  Only the first start issues the command: its worker
takes the result, and the worker of any later start finds it taken and dies.  After that start the
worker is blocked in the device or at its end, with an answer that no later step changes.

The steps come one after the other.  Two starts at once, between which the first to take the result
would be a matter of chance, are no such sequence and are left out.

* `HandleStep`, `performSteps`: steps on one launch, and what the looks among them show;
* `perform_make`, `perform_alone`: a session with one launch does the same in its own steps;
* `firstStart?`, `EndedWith`: what the worker ends with, told by the steps and the device alone;
* `Stage`, `Stage.perform`, `Stage.run`: the invariant, one step, and all steps;
* `performSteps_unmarked`: abandoning changes the mark and nothing else;
* `performSteps_runsOnce`: **the command runs once, and its end is told truly and for good.**
-/
import DeviceSampling.Proofs.SessionTraces
import DeviceSampling.Session.Operation

namespace DeviceSampling

open Dialog

/-! ## 1. Steps -/

/-- Something done to a launch, or a look at it. -/
inductive HandleStep where
  | start (timeout : Option Binary64)
  | abandon
  /-- The device lets the worker go on. -/
  | release
  /-- Asks for the output without waiting for it. -/
  | askOutput
  | askDone

/-- What a look shows. -/
inductive Shown where
  | output (text : Option String)
  | done (b : Bool)

namespace HandleStep

/-- A step, with what it shows. -/
def perform (l : Launch) : HandleStep → Session (Launch × List Shown)
  | start timeout => do return (← l.start timeout, [])
  | abandon => return (l.abandon, [])
  | release => do return (← l.release, [])
  | askOutput => return (l, [.output l.output?])
  | askDone => return (l, [.done l.isDone])

def isAbandon : HandleStep → Bool
  | abandon => true
  | _ => false

end HandleStep

/-- Some steps, one after the other, with what they show. -/
def performSteps (l : Launch) : List HandleStep → Session (Launch × List Shown)
  | [] => return (l, [])
  | step :: rest => do
    let (l', shown) ← step.perform l
    let (l'', more) ← performSteps l' rest
    return (l'', shown ++ more)

theorem performSteps_append (l : Launch) (front rest : List HandleStep) :
    performSteps l (front ++ rest) = (performSteps l front).bind fun p =>
      (performSteps p.1 rest).bind fun q => .done (q.1, p.2 ++ q.2) := by
  induction front generalizing l with
  | nil => exact (bind_done (performSteps l rest)).symm
  | cons step front ih =>
    simp only [List.cons_append, performSteps, bind_eq, pure_eq_done, ih, bind_assoc, done_bind,
      List.append_assoc]

/-! ## 2. A session with one launch -/

/-- The session whose only launch is this one, made apart. -/
def alone (l : Launch) : SessionState where
  launches := [l]
  held := match l.progress with
    | .held _ => [0]
    | _ => []
  own := some 0

/-- A launch made apart in a fresh session is the only one. -/
theorem perform_make (command : String) :
    LaunchStep.perform {} (.make command) = .done (alone { command }, 0) := rfl

/-- A launch takes the place of the only one, unless that one is held up. -/
theorem alone_replace {l : Launch} (h : ∀ a, l.progress ≠ .held a) (l' : Launch) :
    (alone l).replace 0 l' = alone l' := by
  unfold alone SessionState.replace SessionState.noteHeld
  cases hl : l.progress with
  | held a => exact absurd hl (h a)
  | notStarted => cases l'.progress <;> simp
  | finished => cases l'.progress <;> simp
  | failed => cases l'.progress <;> simp

/-- A launch that is held up takes its own place. -/
theorem alone_replace_self (l : Launch) : (alone l).replace 0 l = alone l := by
  unfold alone SessionState.replace SessionState.noteHeld
  cases hl : l.progress <;> simp

/-- A worker that has its answer is held up no more. -/
theorem bind_finish_replace {β : Type} (l : Launch) (a : Except Fault ShellResult)
    (k : SessionState → Session β) :
    ((l.finish a).bind fun l' => k ({ alone l with held := [] }.replace 0 l')) =
      (l.finish a).bind fun l' => k (alone l') := by
  match a with
  | .error f => rfl
  | .ok r =>
    simp only [Launch.finish]
    cases r.ok <;> rfl

theorem perform_alone_start (l : Launch) (timeout : Option Binary64) :
    LaunchStep.perform (alone l) (.start timeout) =
      ((HandleStep.start timeout).perform l).bind fun p => .done (alone p.1, 0) := by
  show ((l.start timeout).bind fun l' => .done ((alone l).replace 0 l', 0)) =
    ((l.start timeout).bind fun l' => .done (l', [])).bind fun p => .done (alone p.1, 0)
  rw [bind_assoc]
  by_cases h : ∃ a, l.progress = .held a
  · obtain ⟨a, ha⟩ := h
    have hstart : l.start timeout = .done l := by
      unfold Launch.start
      rw [ha]
      rfl
    simp only [hstart, done_bind, alone_replace_self]
  · have hnot : ∀ a, l.progress ≠ .held a := fun a ha => h ⟨a, ha⟩
    simp only [alone_replace hnot, done_bind]

theorem perform_alone_release (l : Launch) :
    LaunchStep.perform (alone l) .release =
      (HandleStep.release.perform l).bind fun p => .done (alone p.1, (alone l).held.length) := by
  cases hl : l.progress with
  | held a =>
    have hheld : (alone l).held = [0] := by
      unfold alone
      rw [hl]
    have hrelease : l.release = l.finish a := by
      unfold Launch.release
      rw [hl]
    have hone : ∀ s : SessionState, s.launches = [l] →
        releaseAll s [0] = l.release.bind fun l' => .done (s.replace 0 l') := by
      intro s hs
      simp [releaseAll, hs]
    simp only [LaunchStep.perform, HandleStep.perform, hheld, bind_eq, pure_eq_done]
    rw [hone _ rfl, bind_assoc, bind_assoc, hrelease]
    exact bind_finish_replace l a fun s => .done (s, 1)
  | notStarted | finished | failed =>
    simp [LaunchStep.perform, HandleStep.perform, Launch.release, alone, hl, releaseAll]

/-- **A session with one launch** does to it what the steps on a handle do. -/
theorem perform_alone (l : Launch) (timeout : Option Binary64) :
    (LaunchStep.perform (alone l) (.start timeout) =
        ((HandleStep.start timeout).perform l).bind fun p => .done (alone p.1, 0)) ∧
      (LaunchStep.perform (alone l) .abandon =
        (HandleStep.abandon.perform l).bind fun p => .done (alone p.1, 0)) ∧
      LaunchStep.perform (alone l) .release =
        (HandleStep.release.perform l).bind fun p => .done (alone p.1, (alone l).held.length) := by
  refine ⟨perform_alone_start l timeout, ?_, perform_alone_release l⟩
  show Dialog.done ((alone l).replace 0 l.abandon, 0) = Dialog.done (alone l.abandon, 0)
  cases hl : l.progress <;> simp [alone, SessionState.replace, SessionState.noteHeld, Launch.abandon, hl]

/-! ## 3. What a dialogue yields -/

section Yields

variable {C : Type} {R : C → Type} {α β σ : Type} {w : World C R σ}

/-- The dialogue ends well in this world, with these deeds, this result and this world after it. -/
structure Yields (w : World C R σ) (d : Dialog C R α) (s : σ) (es : List (Event C R)) (a : α)
    (s' : σ) : Prop where
  result : (d.run w s).result = .ok a
  deeds : deeds (d.run w s).events = es
  world : (d.run w s).world = s'

theorem Yields.done (a : α) (s : σ) : Yields w (.done a) s [] a s := ⟨rfl, rfl, rfl⟩

/-- A sequence yields what its parts do. -/
theorem Yields.bind {d : Dialog C R α} {k : α → Dialog C R β} {s t u : σ}
    {es fs : List (Event C R)} {a : α} {b : β} (hd : Yields w d s es a t)
    (hk : Yields w (k a) t fs b u) : Yields w (d.bind k) s (es ++ fs) b u := by
  have hrun : (d.bind k).run w s =
      { (k a).run w t with events := (d.run w s).events ++ ((k a).run w t).events } := by
    rw [run_bind, Outcome.andThen, hd.result]
    dsimp only
    rw [hd.world]
  constructor
  · rw [hrun]
    exact hk.result
  · rw [hrun, ← hd.deeds, ← hk.deeds]
    exact deeds_append _ _
  · rw [hrun]
    exact hk.world

/-- A log record changes nothing. -/
theorem Yields.log {d : Dialog C R α} {s s' : σ} {es : List (Event C R)} {a : α} (r : LogRecord)
    (h : Yields w d s es a s') : Yields w (.log r d) s es a s' :=
  ⟨h.result, h.deeds, h.world⟩

/-- A worker's command is a deed, and the rest goes on in the world after it. -/
theorem Yields.spawn {c : C} {k : Bool → R c → Dialog C R α} {s t u : σ} {held : Bool} {r : R c}
    {es : List (Event C R)} {a : α} (hw : w.spawn c s = ((held, r), t))
    (h : Yields w (k held r) t es a u) :
    Yields w (.spawn c k) s (.spawned c held r :: es) a u := by
  have hrun : (Dialog.spawn c k).run w s = ((k held r).run w t).after (.spawned c held r) := by
    simp only [run, hw]
  constructor
  · rw [hrun]
    exact h.result
  · rw [hrun, ← h.deeds]
    rfl
  · rw [hrun]
    exact h.world

end Yields

variable {σ : Type} {w : World ShellCall ShellAnswer σ}

/-- A worker at its end tells its answer. -/
theorem Launch.finish_yields (l : Launch) (a : Except Fault ShellResult) (s : σ) :
    Yields w (l.finish a) s [] { l with progress := Session.progressAfter a } s := by
  match a with
  | .error f => exact .log _ (.done _ s)
  | .ok r =>
    dsimp only [Launch.finish]
    split
    · exact .log _ (.done _ s)
    · exact .log _ (.log _ (.done _ s))

/-- A first start issues the command, and its worker ends or is blocked. -/
theorem Launch.start_yields {l : Launch} (hl : l.progress = .notStarted)
    {timeout : Option Binary64} {s s' : σ} {held : Bool} {a : Except Fault ShellResult}
    (hw : w.spawn ⟨.start, l.command, timeout⟩ s = ((held, a), s')) :
    Yields w (l.start timeout) s [.spawned ⟨.start, l.command, timeout⟩ held a]
      { l with progress := if held then .held a else Session.progressAfter a } s' := by
  unfold Launch.start
  rw [hl]
  refine .log _ (.spawn hw ?_)
  cases held with
  | true => exact .done _ s'
  | false => exact l.finish_yields a s'

/-- Another start does nothing: its worker dies, because the result is running or finished. -/
theorem Launch.start_again {l : Launch} (hl : l.progress ≠ .notStarted)
    (timeout : Option Binary64) : l.start timeout = .done l := by
  unfold Launch.start
  cases h : l.progress with
  | notStarted => exact absurd h hl
  | held | finished | failed => rfl

theorem Launch.release_held {l : Launch} {a : Except Fault ShellResult} (hl : l.progress = .held a) :
    l.release = l.finish a := by
  unfold Launch.release
  rw [hl]

/-- The device lets no worker go on that it does not hold. -/
theorem Launch.release_idle {l : Launch} (hl : ∀ a, l.progress ≠ .held a) :
    l.release = .done l := by
  unfold Launch.release
  cases h : l.progress with
  | held a => exact absurd h (hl a)
  | notStarted | finished | failed => rfl

theorem progressAfter_ne_notStarted (a : Except Fault ShellResult) :
    Session.progressAfter a ≠ .notStarted := by
  cases a <;> simp [Session.progressAfter]

theorem progressAfter_ne_held (a b : Except Fault ShellResult) :
    Session.progressAfter a ≠ .held b := by
  cases a <;> simp [Session.progressAfter]

/-! ## 4. The invariant -/

/-- The time limit of the first start among some steps, and the steps after it. -/
def firstStart? : List HandleStep → Option (Option Binary64 × List HandleStep)
  | [] => none
  | .start timeout :: rest => some (timeout, rest)
  | _ :: rest => firstStart? rest

theorem firstStart?_eq_none {steps : List HandleStep} (h : firstStart? steps = none)
    (timeout : Option Binary64) : .start timeout ∉ steps := by
  fun_induction firstStart? steps with
  | case1 => exact List.not_mem_nil
  | case2 => cases h
  | case3 step rest hne ih =>
    intro hmem
    rcases List.mem_cons.1 hmem with hstep | hmem
    · exact hne timeout hstep.symm
    · exact ih h hmem

theorem start_mem_of_firstStart? {steps after : List HandleStep} {timeout : Option Binary64}
    (h : firstStart? steps = some (timeout, after)) : .start timeout ∈ steps := by
  fun_induction firstStart? steps with
  | case1 => cases h
  | case2 t tail =>
    obtain ⟨rfl, -⟩ := Prod.mk.inj (Option.some.inj h)
    exact List.mem_cons_self
  | case3 step tail hne ih => exact List.mem_cons_of_mem _ (ih h)

/-- A step after the first start stands among the steps after it. -/
theorem firstStart?_append {steps after : List HandleStep} {timeout : Option Binary64}
    (h : firstStart? steps = some (timeout, after)) (rest : List HandleStep) :
    firstStart? (steps ++ rest) = some (timeout, after ++ rest) := by
  fun_induction firstStart? steps with
  | case1 => cases h
  | case2 t tail =>
    obtain ⟨rfl, rfl⟩ := Prod.mk.inj (Option.some.inj h)
    rfl
  | case3 step tail hne ih =>
    rw [List.cons_append, firstStart?.eq_3 _ _ hne]
    exact ih h

theorem firstStart?_append_of_none {steps : List HandleStep} (h : firstStart? steps = none)
    (rest : List HandleStep) : firstStart? (steps ++ rest) = firstStart? rest := by
  fun_induction firstStart? steps with
  | case1 => rfl
  | case2 => cases h
  | case3 step tail hne ih =>
    rw [List.cons_append, firstStart?.eq_3 _ _ hne]
    exact ih h

/-- **What the worker ends with after some steps:** the device's answer to the first start, at once or,
if the device holds the worker, when it lets it go on. -/
inductive EndedWith (w : World ShellCall ShellAnswer σ) (s : σ) (command : String)
    (steps : List HandleStep) : Except Fault ShellResult → Prop
  | intro {timeout after held answer} : firstStart? steps = some (timeout, after) →
      (w.spawn ⟨.start, command, timeout⟩ s).1 = (held, answer) →
      (held = true → .release ∈ after) → EndedWith w s command steps answer

/-- **How far the worker is after some steps,** with the deeds so far and the world now. -/
inductive Stage (w : World ShellCall ShellAnswer σ) (s : σ) (command : String)
    (steps : List HandleStep) : List Session.Deed → LaunchProgress → σ → Prop
  | idle : firstStart? steps = none → Stage w s command steps [] .notStarted s
  /-- The device holds the worker. -/
  | blocked {timeout after answer s'} : firstStart? steps = some (timeout, after) →
      w.spawn ⟨.start, command, timeout⟩ s = ((true, answer), s') → .release ∉ after →
      Stage w s command steps [.spawned ⟨.start, command, timeout⟩ true answer] (.held answer) s'
  | ended {timeout after held answer s'} : firstStart? steps = some (timeout, after) →
      w.spawn ⟨.start, command, timeout⟩ s = ((held, answer), s') →
      (held = true → .release ∈ after) →
      Stage w s command steps [.spawned ⟨.start, command, timeout⟩ held answer]
        (Session.progressAfter answer) s'

section Steps

variable {s : σ} {command : String} {front : List HandleStep} {es : List Session.Deed}

/-- **A step that finds nothing to do** leaves the worker where it is: a start after the first one, a
release of no worker, an abandonment or a look. -/
theorem Stage.stay {p : LaunchProgress} {s' : σ} (h : Stage w s command front es p s')
    {step : HandleStep} (hstart : ∀ t, step = .start t → p ≠ .notStarted)
    (hrelease : step = .release → ∀ a, p ≠ .held a) :
    Stage w s command (front ++ [step]) es p s' := by
  cases h with
  | idle hnone =>
    refine .idle ((firstStart?_append_of_none hnone _).trans ?_)
    cases step with
    | start t => exact absurd rfl (hstart t rfl)
    | _ => rfl
  | blocked hfirst hw hblocked =>
    refine .blocked (firstStart?_append hfirst _) hw fun hmem => ?_
    rcases List.mem_append.1 hmem with hmem | hmem
    · exact hblocked hmem
    · exact hrelease (List.mem_singleton.1 hmem).symm _ rfl
  | ended hfirst hw hends =>
    exact .ended (firstStart?_append hfirst _) hw fun hheld => List.mem_append_left _ (hends hheld)

/-- **The first start** issues the command. -/
theorem Stage.start {p : LaunchProgress} {s' t : σ} (h : Stage w s command front es p s')
    (hp : p = .notStarted) {timeout : Option Binary64} {held : Bool}
    {a : Except Fault ShellResult}
    (hw : w.spawn ⟨.start, command, timeout⟩ s' = ((held, a), t)) :
    Stage w s command (front ++ [.start timeout])
      (es ++ [.spawned ⟨.start, command, timeout⟩ held a])
      (if held then .held a else Session.progressAfter a) t := by
  cases h with
  | idle hnone =>
    have hfirst : firstStart? (front ++ [.start timeout]) = some (timeout, []) :=
      firstStart?_append_of_none hnone _
    cases held with
    | true => exact .blocked hfirst hw List.not_mem_nil
    | false => exact .ended hfirst hw Bool.noConfusion
  | blocked => cases hp
  | ended => exact absurd hp (progressAfter_ne_notStarted _)

/-- **A release** of a worker that the device holds. -/
theorem Stage.release {p : LaunchProgress} {s' : σ} (h : Stage w s command front es p s')
    {a : Except Fault ShellResult} (hp : p = .held a) :
    Stage w s command (front ++ [.release]) es (Session.progressAfter a) s' := by
  cases h with
  | idle => cases hp
  | blocked hfirst hw hblocked =>
    obtain rfl := LaunchProgress.held.inj hp
    exact .ended (firstStart?_append hfirst _) hw fun _ => List.mem_append_right _ List.mem_cons_self
  | ended => exact absurd hp (progressAfter_ne_held _ _)

/-- **What steps make of a launch** whose worker was where the steps before said: it is where all the
steps say, the command stays, and an abandonment marks the launch. -/
structure Becomes (w : World ShellCall ShellAnswer σ) (s : σ) (command : String)
    (front steps : List HandleStep) (l : Launch) (es : List Session.Deed) (l' : Launch) (t : σ) :
    Prop where
  stage : Stage w s command (front ++ steps) es l'.progress t
  sameCommand : l'.command = command
  abandoned : l'.abandoned = true ↔ l.abandoned = true ∨ .abandon ∈ steps

/-- **One step.** -/
theorem Stage.perform {l : Launch} {s' : σ} (h : Stage w s command front es l.progress s')
    (hc : l.command = command) (step : HandleStep) :
    ∃ l' shown fs t, Yields w (step.perform l) s' fs (l', shown) t ∧
      Becomes w s command front [step] l (es ++ fs) l' t := by
  have hquiet : ∀ {fs : List Session.Deed} {l' : Launch} {t : σ} {d : Session Launch},
      Yields w d s' fs l' t →
        Yields w (d.bind fun l' => .done (l', [])) s' fs (l', ([] : List Shown)) t := by
    intro fs l' t d hd
    rw [← List.append_nil fs]
    exact hd.bind (.done _ t)
  -- a step that finds nothing to do leaves the launch as it is, but for the mark
  have hstays : ∀ {l' : Launch}, l'.progress = l.progress → l'.command = l.command →
      (∀ t, step = .start t → l.progress ≠ .notStarted) →
      (step = .release → ∀ a, l.progress ≠ .held a) →
      (l'.abandoned = true ↔ l.abandoned = true ∨ .abandon ∈ [step]) →
        Becomes w s command front [step] l (es ++ []) l' s' := by
    intro l' hp hcommand hstart hrelease habandoned
    rw [List.append_nil]
    refine ⟨?_, hcommand.trans hc, habandoned⟩
    rw [hp]
    exact h.stay hstart hrelease
  subst hc
  cases step with
  | start timeout =>
    by_cases hp : l.progress = .notStarted
    · rcases hw : w.spawn ⟨.start, l.command, timeout⟩ s' with ⟨⟨held, a⟩, t⟩
      exact ⟨_, _, _, t, hquiet (Launch.start_yields hp hw), h.start hp hw, rfl, by simp⟩
    · refine ⟨l, [], [], s', hquiet ?_, hstays rfl rfl (fun _ _ => hp) (by simp) (by simp)⟩
      rw [Launch.start_again hp]
      exact .done l s'
  | release =>
    by_cases hp : ∃ a, l.progress = .held a
    · obtain ⟨a, hp⟩ := hp
      refine ⟨{ l with progress := Session.progressAfter a }, [], [], s', hquiet ?_, ?_, rfl, by simp⟩
      · rw [Launch.release_held hp]
        exact l.finish_yields a s'
      · rw [List.append_nil]
        exact h.release hp
    · have hnot : ∀ a, l.progress ≠ .held a := fun a ha => hp ⟨a, ha⟩
      refine ⟨l, [], [], s', hquiet ?_, hstays rfl rfl (by simp) (fun _ => hnot) (by simp)⟩
      rw [Launch.release_idle hnot]
      exact .done l s'
  | abandon =>
    exact ⟨l.abandon, [], [], s', .done _ s', hstays rfl rfl (by simp) (by simp)
      (by simp [Launch.abandon])⟩
  | askOutput =>
    exact ⟨l, _, [], s', .done _ s', hstays rfl rfl (by simp) (by simp) (by simp)⟩
  | askDone =>
    exact ⟨l, _, [], s', .done _ s', hstays rfl rfl (by simp) (by simp) (by simp)⟩

/-- **All steps.** -/
theorem Stage.run {l : Launch} {s' : σ} (h : Stage w s command front es l.progress s')
    (hc : l.command = command) (steps : List HandleStep) :
    ∃ l' shown fs t, Yields w (performSteps l steps) s' fs (l', shown) t ∧
      Becomes w s command front steps l (es ++ fs) l' t := by
  induction steps generalizing l front es s' with
  | nil =>
    refine ⟨l, [], [], s', .done _ s', ?_, hc, by simp⟩
    rwa [List.append_nil, List.append_nil]
  | cons step rest ih =>
    obtain ⟨l₁, shown₁, fs₁, t₁, hyields₁, hone⟩ := h.perform hc step
    obtain ⟨l₂, shown₂, fs₂, t₂, hyields₂, hrest⟩ := ih hone.stage hone.sameCommand
    refine ⟨l₂, shown₁ ++ shown₂, fs₁ ++ fs₂, t₂, ?_, ?_, hrest.sameCommand, ?_⟩
    · refine hyields₁.bind ?_
      rw [← List.append_nil fs₂]
      exact hyields₂.bind (.done _ t₂)
    · have hstage := hrest.stage
      rwa [List.append_assoc, List.singleton_append, List.append_assoc] at hstage
    · rw [hrest.abandoned, hone.abandoned, List.mem_singleton, List.mem_cons, or_assoc]

end Steps

/-! ## 5. Abandonment -/

/-- The launch without its mark. -/
def Launch.unmarked (l : Launch) : Launch := { l with abandoned := false }

theorem Launch.unmarked_finish (l : Launch) (a : Except Fault ShellResult) :
    l.unmarked.finish a = (l.finish a).bind fun l' => .done l'.unmarked := by
  match a with
  | .error f => rfl
  | .ok r =>
    dsimp only [Launch.finish]
    split <;> rfl

theorem Launch.unmarked_start (l : Launch) (timeout : Option Binary64) :
    l.unmarked.start timeout = (l.start timeout).bind fun l' => .done l'.unmarked := by
  by_cases hl : l.progress = .notStarted
  · unfold Launch.start
    rw [show l.unmarked.progress = .notStarted from hl, hl]
    refine congrArg (Dialog.log _) (congrArg (Dialog.spawn _) (funext fun held => funext fun a => ?_))
    cases held with
    | true => rfl
    | false => exact l.unmarked_finish a
  · rw [Launch.start_again hl, Launch.start_again (l := l.unmarked) hl]
    rfl

theorem Launch.unmarked_release (l : Launch) :
    l.unmarked.release = l.release.bind fun l' => .done l'.unmarked := by
  by_cases hl : ∃ a, l.progress = .held a
  · obtain ⟨a, hl⟩ := hl
    rw [Launch.release_held hl, Launch.release_held (l := l.unmarked) hl]
    exact l.unmarked_finish a
  · have hnot : ∀ a, l.progress ≠ .held a := fun a ha => hl ⟨a, ha⟩
    rw [Launch.release_idle hnot, Launch.release_idle (l := l.unmarked) hnot]
    rfl

/-- A step that is no abandonment does not look at the mark. -/
theorem perform_unmarked {step : HandleStep} (h : step.isAbandon = false) (l : Launch) :
    step.perform l.unmarked = (step.perform l).bind fun p => .done (p.1.unmarked, p.2) := by
  cases step with
  | start timeout =>
    simp only [HandleStep.perform, bind_eq, pure_eq_done, bind_assoc, done_bind,
      Launch.unmarked_start]
  | release =>
    simp only [HandleStep.perform, bind_eq, pure_eq_done, bind_assoc, done_bind,
      Launch.unmarked_release]
  | abandon => cases h
  | askOutput => rfl
  | askDone => rfl

/-- **Abandoning changes the mark and nothing else:** without its abandonments, a sequence of steps
does and shows the same, and leaves the same launch without the mark. -/
theorem performSteps_unmarked (l : Launch) (steps : List HandleStep) :
    performSteps l.unmarked (steps.filter (!·.isAbandon)) =
      (performSteps l steps).bind fun p => .done (p.1.unmarked, p.2) := by
  induction steps generalizing l with
  | nil => rfl
  | cons step rest ih =>
    cases hs : step.isAbandon with
    | true =>
      obtain rfl : step = .abandon := by
        cases step <;> simp_all [HandleStep.isAbandon]
      have hrest : performSteps l (.abandon :: rest) = performSteps l.abandon rest :=
        bind_done (performSteps l.abandon rest)
      rw [List.filter_cons_of_neg (by simp [hs]), hrest, ← ih l.abandon]
      rfl
    | false =>
      rw [List.filter_cons_of_pos (by simp [hs])]
      simp only [performSteps, bind_eq, pure_eq_done, perform_unmarked hs, bind_assoc, done_bind, ih]

/-! ## 6. What a launch tells -/

section Telling

variable {s : σ} {command : String} {steps : List HandleStep} {es : List Session.Deed}

/-- A worker has one end. -/
theorem EndedWith.unique {a b : Except Fault ShellResult} (ha : EndedWith w s command steps a)
    (hb : EndedWith w s command steps b) : a = b := by
  obtain ⟨hfirst, hw, -⟩ := ha
  obtain ⟨hfirst', hw', -⟩ := hb
  rw [hfirst] at hfirst'
  obtain ⟨rfl, -⟩ := Prod.mk.inj (Option.some.inj hfirst')
  rw [hw] at hw'
  exact (Prod.mk.inj hw').2

/-- An end stays, whatever is done after it. -/
theorem EndedWith.append {a : Except Fault ShellResult} (h : EndedWith w s command steps a)
    (rest : List HandleStep) : EndedWith w s command (steps ++ rest) a := by
  obtain ⟨hfirst, hw, hends⟩ := h
  exact .intro (firstStart?_append hfirst rest) hw fun hheld =>
    List.mem_append_left _ (hends hheld)

/-- The worker is at its end, or it has none yet. -/
theorem Stage.ended_or_not {p : LaunchProgress} {t : σ} (h : Stage w s command steps es p t) :
    (∃ a, EndedWith w s command steps a ∧ p = Session.progressAfter a) ∨
      (∀ a, ¬ EndedWith w s command steps a) ∧ (p = .notStarted ∨ ∃ a, p = .held a) := by
  cases h with
  | idle hnone =>
    refine Or.inr ⟨fun a ha => ?_, Or.inl rfl⟩
    obtain ⟨hfirst, -⟩ := ha
    rw [hnone] at hfirst
    cases hfirst
  | blocked hfirst hw hblocked =>
    refine Or.inr ⟨fun a ha => ?_, Or.inr ⟨_, rfl⟩⟩
    obtain ⟨hfirst', hw', hends⟩ := ha
    rw [hfirst] at hfirst'
    obtain ⟨rfl, rfl⟩ := Prod.mk.inj (Option.some.inj hfirst')
    rw [hw] at hw'
    exact hblocked (hends (Prod.mk.inj hw').1.symm)
  | ended hfirst hw hends =>
    exact Or.inl ⟨_, .intro hfirst (congrArg Prod.fst hw) hends, rfl⟩

/-- A worker at its end tells the answer that it ended with. -/
theorem Stage.progress_eq {p : LaunchProgress} {t : σ} (h : Stage w s command steps es p t)
    {a : Except Fault ShellResult} (ha : EndedWith w s command steps a) :
    p = Session.progressAfter a := by
  rcases h.ended_or_not with ⟨b, hb, hp⟩ | ⟨hnone, -⟩
  · rw [hp, hb.unique ha]
  · exact absurd ha (hnone a)

/-- **What a launch tells after some steps:** its command, whether its worker is at its end, the
output or the fault that the worker ended with, and whether it was abandoned. -/
structure Tells (w : World ShellCall ShellAnswer σ) (s : σ) (command : String)
    (steps : List HandleStep) (l : Launch) : Prop where
  sameCommand : l.command = command
  done : l.isDone = true ↔ ∃ a, EndedWith w s command steps a
  /-- The exit code of the command does not matter. -/
  output : ∀ text, l.output? = some text ↔
    ∃ r, EndedWith w s command steps (.ok r) ∧ r.output = text
  fault : ∀ f, l.fault? = some f ↔ EndedWith w s command steps (.error f)
  abandoned : l.abandoned = true ↔ .abandon ∈ steps

theorem Stage.tells {l : Launch} {t : σ} (h : Stage w s command steps es l.progress t)
    (hc : l.command = command) (habandoned : l.abandoned = true ↔ .abandon ∈ steps) :
    Tells w s command steps l := by
  rcases h.ended_or_not with ⟨a, ha, hp⟩ | ⟨hnone, hp⟩
  · have hother : ∀ b, EndedWith w s command steps b ↔ b = a :=
      fun b => ⟨fun hb => hb.unique ha, fun hb => hb ▸ ha⟩
    cases a with
    | error f =>
      exact ⟨hc, by simp [Launch.isDone, hp, Session.progressAfter, hother],
        by simp [Launch.output?, hp, Session.progressAfter, hother],
        by simp [Launch.fault?, hp, Session.progressAfter, hother, eq_comm], habandoned⟩
    | ok r =>
      exact ⟨hc, by simp [Launch.isDone, hp, Session.progressAfter, hother],
        by simp [Launch.output?, hp, Session.progressAfter, hother],
        by simp [Launch.fault?, hp, Session.progressAfter, hother], habandoned⟩
  · have hlooks : l.isDone = false ∧ l.output? = none ∧ l.fault? = none := by
      unfold Launch.isDone Launch.output? Launch.fault?
      rcases hp with hp | ⟨b, hp⟩ <;> simp [hp]
    exact ⟨hc, by simp [hlooks, hnone], by simp [hlooks, hnone], by simp [hlooks, hnone],
      habandoned⟩

/-- The deeds of steps that start the launch are its command, with the answer to it. -/
theorem Stage.deeds_eq {p : LaunchProgress} {t : σ} (h : Stage w s command steps es p t)
    {timeout : Option Binary64} (hmem : .start timeout ∈ steps) :
    ∃ timeout after held answer, firstStart? steps = some (timeout, after) ∧
      (w.spawn ⟨.start, command, timeout⟩ s).1 = (held, answer) ∧
      es = [.spawned ⟨.start, command, timeout⟩ held answer] := by
  cases h with
  | idle hnone => exact absurd hmem (firstStart?_eq_none hnone timeout)
  | blocked hfirst hw => exact ⟨_, _, _, _, hfirst, congrArg Prod.fst hw, rfl⟩
  | ended hfirst hw => exact ⟨_, _, _, _, hfirst, congrArg Prod.fst hw, rfl⟩

/-- Steps that do not start the launch do nothing. -/
theorem Stage.deeds_eq_nil {p : LaunchProgress} {t : σ} (h : Stage w s command steps es p t)
    (hnone : ∀ timeout, .start timeout ∉ steps) : es = [] := by
  have hstart : ∀ {timeout after}, firstStart? steps ≠ some (timeout, after) := by
    intro timeout after hfirst
    exact hnone timeout (start_mem_of_firstStart? hfirst)
  cases h with
  | idle => rfl
  | blocked hfirst => exact absurd hfirst hstart
  | ended hfirst => exact absurd hfirst hstart

/-- A look that shows something shows it first. -/
theorem Stage.look {l l' : Launch} {t : σ} (h : Stage w s command steps es l.progress t)
    (hc : l.command = command) {step : HandleStep} {x : Shown}
    (hstep : step.perform l = .done (l, [x])) (rest : List HandleStep) {shown : List Shown}
    (hr : ((performSteps l (step :: rest)).run w t).result = .ok (l', shown)) :
    ∃ more, shown = x :: more := by
  obtain ⟨l'', more, fs, u, hyields, -⟩ := h.run hc rest
  have hall : Yields w (performSteps l (step :: rest)) t (fs ++ []) (l'', [x] ++ more) u := by
    unfold performSteps
    rw [hstep]
    exact hyields.bind (.done _ u)
  rw [hall.result] at hr
  obtain ⟨-, rfl⟩ := Prod.mk.inj (Except.ok.inj hr)
  exact ⟨more, rfl⟩

end Telling

/-- **The command runs once, and its end is told truly and for good,** whatever is done to the launch,
one step after the other.  Steps without a start do nothing to the device; steps with one issue the
command once, as the first start says.  After any steps the launch tells how its worker stands; what
it told after fewer steps it still tells, if its worker was at its end then; and each look shows what
the launch tells at its time.  Abandonments change the mark alone: without them the same is done and
shown, and the same launch is left. -/
theorem performSteps_runsOnce (w : World ShellCall ShellAnswer σ) (s : σ) (command : String)
    (steps : List HandleStep) :
    let run := fun steps : List HandleStep => (performSteps { command } steps).run w s
    ((∀ timeout, .start timeout ∉ steps) → deeds (run steps).events = []) ∧
    (∀ timeout, .start timeout ∈ steps →
      ∃ timeout after held answer, firstStart? steps = some (timeout, after) ∧
        (w.spawn ⟨.start, command, timeout⟩ s).1 = (held, answer) ∧
        deeds (run steps).events = [.spawned ⟨.start, command, timeout⟩ held answer]) ∧
    (∀ front rest, steps = front ++ rest →
      ∃ l₁ l shown₁ shown₂,
        (run front).result = .ok (l₁, shown₁) ∧ (run steps).result = .ok (l, shown₁ ++ shown₂) ∧
        Tells w s command front l₁ ∧ Tells w s command steps l ∧
        (∀ tail, rest = .askOutput :: tail → ∃ more, shown₂ = .output l₁.output? :: more) ∧
        (∀ tail, rest = .askDone :: tail → ∃ more, shown₂ = .done l₁.isDone :: more) ∧
        (l₁.isDone = true → l.progress = l₁.progress) ∧
        (l₁.abandoned = true → l.abandoned = true)) ∧
    performSteps { command } (steps.filter (!·.isAbandon)) =
      (performSteps { command } steps).bind fun p => .done ({ p.1 with abandoned := false }, p.2) := by
  intro run
  have hidle : Stage w s command [] [] ({ command } : Launch).progress s := .idle rfl
  obtain ⟨l, shown, es, t, hyields, hall⟩ := hidle.run rfl steps
  have hes : deeds (run steps).events = es := hyields.deeds
  refine ⟨fun hnone => ?_, fun timeout hmem => ?_, fun front rest hsteps => ?_,
    performSteps_unmarked { command } steps⟩
  · rw [hes]
    exact hall.stage.deeds_eq_nil hnone
  · rw [hes]
    exact hall.stage.deeds_eq hmem
  · subst hsteps
    obtain ⟨l₁, shown₁, es₁, t₁, hyields₁, hfront⟩ := hidle.run rfl front
    obtain ⟨l, shown₂, es₂, t, hyields₂, hrest⟩ := hfront.stage.run hfront.sameCommand rest
    have hresult : (run (front ++ rest)).result = .ok (l, shown₁ ++ shown₂) := by
      show ((performSteps { command } (front ++ rest)).run w s).result = _
      rw [performSteps_append]
      exact (hyields₁.bind (hyields₂.bind (.done (l, shown₁ ++ shown₂) t))).result
    have habandoned₁ : l₁.abandoned = true ↔ .abandon ∈ front := by
      simpa using hfront.abandoned
    have habandoned : l.abandoned = true ↔ .abandon ∈ front ++ rest := by
      rw [hrest.abandoned, habandoned₁, List.mem_append]
    have htells₁ := hfront.stage.tells hfront.sameCommand habandoned₁
    have htells := hrest.stage.tells hrest.sameCommand habandoned
    refine ⟨l₁, l, shown₁, shown₂, hyields₁.result, hresult, htells₁, htells, ?_, ?_, ?_, ?_⟩
    · rintro tail rfl
      exact hfront.stage.look hfront.sameCommand rfl tail hyields₂.result
    · rintro tail rfl
      exact hfront.stage.look hfront.sameCommand rfl tail hyields₂.result
    · intro hdone
      obtain ⟨a, ha⟩ := htells₁.done.1 hdone
      rw [hfront.stage.progress_eq ha, hrest.stage.progress_eq (ha.append rest)]
    · intro hmark
      exact hrest.abandoned.2 (Or.inl hmark)

end DeviceSampling
