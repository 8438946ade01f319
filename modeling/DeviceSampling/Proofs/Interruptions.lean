/-
# Interruptions after the launch

The user may interrupt a recording while it sleeps: between two checks of a poll, or in the
sampling.  An interruption of the sampling leads to the stop.  An interruption of the wait for the
sampler breaks the run off, though the sampler is launched by then.

* `end_of_interrupted`: where a poll is interrupted;
* `Launches`, `Checks`, `Interrupts`: the launch, the checks and the interrupts as the host sees them;
* `Launches.exists_poll`: the launch stands right before the wait for the sampler, and nowhere else;
* `Launches.sampling_interrupted`, `Launches.wait_interrupted`: the two sleeps that may be
  interrupted;
* `interrupted_afterLaunch`: **what follows an interruption after the launch:** a stop if the sampler
  was seen to run, and nothing at all if it was still waited for.
-/
import DeviceSampling.Proofs.RecordReports

namespace DeviceSampling

open Dialog Session

/-! ## 1. Where a poll is interrupted -/

namespace Session

variable {config : SamplerConfig}

/-- **A poll that is interrupted ends there,** after a check that did not hold. -/
theorem end_of_interrupted {delay : Binary64} {retries : Nat} {es : List Deed}
    {r : Except Fault Bool} (h : PollGoes (CheckRound config true) delay retries es r)
    {before after : List Deed} {seconds : Binary64}
    (hes : es = before ++ .slept seconds true :: after) :
    after = [] ∧ r = .error .interrupted ∧
      ∃ front a, before = front ++ [check config a] ∧ checkEnd a = .ok false := by
  -- one check is no place for an interruption
  have hone : ∀ {a} {before : List Deed}, [check config a] ≠ before ++ .slept seconds true :: after := by
    intro a before h
    have hmem : .slept seconds true ∈ [check config a] := by
      rw [h]
      exact List.mem_append_right _ List.mem_cons_self
    cases List.mem_singleton.1 hmem
  induction h generalizing before with
  | met hc | spent hc | failed hc =>
    obtain ⟨a, rfl, -⟩ := hc
    exact absurd hes hone
  | interrupted hc =>
    obtain ⟨a, rfl, ha⟩ := checkRound_ok hc
    rw [List.singleton_append] at hes
    match before with
    | [] => cases hes
    | [_] =>
      obtain ⟨rfl, hrest⟩ := List.cons.inj hes
      exact ⟨(List.cons.inj hrest).2.symm, rfl, [], a, rfl, ha⟩
    | _ :: _ :: _ => simp at hes
  | @again left es rest r hc _ ih =>
    obtain ⟨a, rfl, -⟩ := checkRound_ok hc
    match before with
    | [] => cases hes
    | [_] => cases (List.cons.inj (List.cons.inj hes).2).1
    | x :: y :: before =>
      obtain ⟨hafter, hr, front, a', rfl, ha'⟩ :=
        ih (List.cons.inj (List.cons.inj hes).2).2
      exact ⟨hafter, hr, x :: y :: front, a', rfl, ha'⟩

/-- A poll that succeeds ends with a check that holds. -/
theorem end_of_met {delay : Binary64} {retries : Nat} {es : List Deed} {r : Except Fault Bool}
    (h : PollGoes (CheckRound config true) delay retries es r) (hr : r = .ok true) :
    ∃ front a, es = front ++ [check config a] ∧ checkEnd a = .ok true := by
  induction h with
  | met hc =>
    obtain ⟨a, rfl, ha⟩ := checkRound_ok hc
    exact ⟨[], a, rfl, ha⟩
  | spent | interrupted | failed => cases hr
  | @again left es rest r _ _ ih =>
    obtain ⟨front, a, rfl, ha⟩ := ih hr
    refine ⟨es ++ .slept delay false :: front, a, ?_, ha⟩
    rw [List.append_assoc, List.cons_append]

end Session

/-! ## 2. The launch among the deeds -/

namespace Dialog

variable {C : Type} {R : C → Type}

/-- Whether an event is a call of a worker. -/
def Event.isSpawn : Event C R → Bool
  | .spawned .. => true
  | _ => false

/-- No worker calls. -/
def Unspawned (es : List (Event C R)) : Prop := ∀ e ∈ es, e.isSpawn = false

@[simp] theorem unspawned_nil : Unspawned ([] : List (Event C R)) :=
  fun _ h => absurd h List.not_mem_nil

@[simp] theorem unspawned_cons (e : Event C R) (es : List (Event C R)) :
    Unspawned (e :: es) ↔ e.isSpawn = false ∧ Unspawned es := List.forall_mem_cons

@[simp] theorem unspawned_append (es fs : List (Event C R)) :
    Unspawned (es ++ fs) ↔ Unspawned es ∧ Unspawned fs := List.forall_mem_append

end Dialog

namespace Session

variable {config : SamplerConfig}

@[simp] theorem isSpawn_issued (purpose : Purpose) (command : String)
    (a : Except Fault ShellResult) : (issued purpose command a).isSpawn = false := rfl

theorem unspawned_of_poll {goal : Bool} {delay : Binary64} {retries : Nat} {es : List Deed}
    {r : Except Fault Bool} (h : PollGoes (CheckRound config goal) delay retries es r) :
    Unspawned es := by
  have hround : ∀ {es r}, CheckRound config goal es r → Unspawned es := by
    rintro es r ⟨a, rfl, -⟩
    simp [check]
  induction h with
  | met hc | spent hc | failed hc => exact hround hc
  | interrupted hc => simp [hround hc, Event.isSpawn]
  | again hc _ ih => simp [hround hc, ih, Event.isSpawn]

theorem unspawned_of_stops {es : List Deed} {r : Except Fault Bool} (h : Stops config es r) :
    Unspawned es := by
  cases h with
  | notRunning | notTold => simp [check, interrupt]
  | awaited _ _ hpoll => simp [check, interrupt, unspawned_of_poll hpoll]

theorem unspawned_of_clears {es : List Deed} {r : Except Fault Bool} (h : Clears config es r) :
    Unspawned es := by
  cases h with
  | free | failed => simp [check]
  | stopped _ hs => simp [check, unspawned_of_stops hs]

theorem unspawned_of_collects {destination : String} {es : List Deed} {r : Except Fault Bool}
    (h : Collects config destination es r) : Unspawned es := by
  cases h with
  | notStopped hs => exact unspawned_of_stops hs
  | stopped hs hm => cases hm <;> simp [unspawned_of_stops hs, move, makeDirectory]

/-- A start begins with a running check, and ends there if the check fails. -/
theorem first_of_starts {subcommand arguments : String} {es : List Deed}
    {r : Except Fault (Option Launch × Except Fault Bool)}
    (h : Starts config subcommand arguments es r) :
    ∃ a rest, es = check config a :: rest ∧
      ∀ f, checkEnd a = .error f → rest = [] ∧ r = .ok (none, .error f) := by
  have hclears : ∀ {es r}, Clears config es r → ∃ a rest, es = check config a :: rest ∧
      ∀ f, checkEnd a = .error f → rest = [] ∧ r = .error f := by
    intro es r h
    cases h with
    | free ha => exact ⟨_, _, rfl, fun f hf => by rw [ha] at hf; cases hf⟩
    | stopped ha _ => exact ⟨_, _, rfl, fun f hf => by rw [ha] at hf; cases hf⟩
    | failed ha =>
      refine ⟨_, _, rfl, fun f hf => ⟨rfl, ?_⟩⟩
      rw [ha] at hf
      exact hf
  cases h with
  | notCleared hc _ =>
    obtain ⟨a, rest, rfl, hfail⟩ := hclears hc
    refine ⟨a, rest, rfl, fun f hf => ?_⟩
    obtain ⟨rfl, rfl⟩ := hfail f hf
    exact ⟨rfl, rfl⟩
  | noLimit hc _ =>
    obtain ⟨a, rest, rfl, hfail⟩ := hclears hc
    exact ⟨a, rest, rfl, fun f hf => by cases (hfail f hf).2⟩
  | launched hc _ _ =>
    obtain ⟨a, rest, rfl, hfail⟩ := hclears hc
    exact ⟨a, _, rfl, fun f hf => by cases (hfail f hf).2⟩

end Session

namespace CommandLine

theorem Device.Shows.isSpawn_eq {device : Device} {d : Deed} {e : HostDeed}
    (h : device.Shows d e) : e.isSpawn = d.isSpawn := by
  cases h with
  | slept => rfl
  | called he => cases he <;> rfl
  | spawned he => cases he <;> rfl

theorem Device.Served.ne_slept {device : Device} {c : ShellCall} {a : Except Fault ShellResult}
    {e : HostDeed} (h : device.Served c a e) (seconds : Binary64) (b : Bool) :
    e ≠ .slept seconds b := by
  cases h <;> exact fun h => by cases h

theorem Device.Shows.eq_slept {device : Device} {d : Deed} {seconds : Binary64} {b : Bool}
    (h : device.Shows d (.slept seconds b)) : d = .slept seconds b := by
  cases h with
  | slept => rfl
  | called he => exact absurd rfl (he.ne_slept seconds b)
  | spawned he => cases he

/-- The host sees worker calls only where the session makes them. -/
theorem unspawned_of_shows {device : Device} {es : List Deed} {fs : List HostDeed}
    (h : List.Forall₂ device.Shows es fs) (hes : Unspawned es) : Unspawned fs := by
  induction h with
  | nil => exact unspawned_nil
  | cons he _ ih =>
    rw [unspawned_cons] at hes ⊢
    exact ⟨he.isSpawn_eq.trans hes.1, ih hes.2⟩

/-- What is shown in two parts was done in two parts. -/
theorem exists_append_of_shows {device : Device} {es : List Deed} {fs fs' : List HostDeed}
    (h : List.Forall₂ device.Shows es (fs ++ fs')) :
    ∃ front back, es = front ++ back ∧ List.Forall₂ device.Shows front fs ∧
      List.Forall₂ device.Shows back fs' :=
  ⟨es.take fs.length, es.drop fs.length, (List.take_append_drop _ _).symm,
    List.forall₂_take_append es fs fs' h, List.forall₂_drop_append es fs fs' h⟩

/-- The host sees a check at the end of what a session does, if it ends with one. -/
theorem exists_check_of_shows {device : Device} {config : SamplerConfig} {front : List Deed}
    {a : Except Fault ShellResult} {fs : List HostDeed}
    (h : List.Forall₂ device.Shows (front ++ [check config a]) fs) :
    ∃ waiting e, fs = waiting ++ [e] ∧
      device.Served ⟨.runningCheck, config.runningCommand, none⟩ a e := by
  have hlast := List.forall₂_drop_append fs front [check config a] h.flip
  refine ⟨fs.take front.length, ?_⟩
  generalize hdrop : fs.drop front.length = last at hlast
  cases hlast with
  | @cons e _ _ _ he hnil =>
    cases hnil
    cases he with
    | called he =>
      refine ⟨e, ?_, he⟩
      rw [← hdrop]
      exact (List.take_append_drop _ _).symm

theorem unspawned_of_handsOver {device : Device} {request : RecordRequest} {es : List HostDeed}
    {r : Except Fault Nat} (h : HandsOver device request es r) : Unspawned es := by
  cases h with
  | told => simp [line, Event.isSpawn]
  | pulled _ hp => cases hp <;> simp [line, directory, pull, Event.isSpawn]

namespace Recording

variable {σ : Type} (m : Recording σ)

/-- **The launch of the sampler,** as the host sees it. -/
def Launches (e : HostDeed) : Prop :=
  ∃ timeout held a, m.device.Launched
    ⟨.start, m.config.startCommand m.request.subcommand m.request.arguments, some timeout⟩ held a e

/-- **A running check with its answer,** as the host sees it. -/
def Checks (a : Except Fault ShellResult) (e : HostDeed) : Prop :=
  m.device.Served ⟨.runningCheck, m.config.runningCommand, none⟩ a e

/-- **An interrupt to the sampler,** as the host sees it. -/
def Interrupts (e : HostDeed) : Prop :=
  ∃ a, m.device.Served ⟨.interrupt, m.config.interruptCommand, none⟩ a e

variable {m}

theorem Launches.isSpawn {e : HostDeed} (h : m.Launches e) : e.isSpawn = true := by
  obtain ⟨timeout, held, a, h⟩ := h
  exact (Device.Shows.spawned h).isSpawn_eq

/-- The launch is no deed of a part that launches nothing. -/
theorem Launches.not_mem {launch : HostDeed} (hlaunch : m.Launches launch) {fs : List HostDeed}
    (hfs : Unspawned fs) : launch ∉ fs := fun hmem =>
  Bool.false_ne_true ((hfs launch hmem).symm.trans hlaunch.isSpawn)

/-- A device that refuses commands is not started. -/
theorem start_of_refuses
    (h : m.device.Refuses ⟨.runningCheck, m.config.runningCommand, none⟩ .integerTooLarge) :
    ¬ m.Started ∧ deeds m.start.events = [] := by
  obtain ⟨es, hstarts, hcarried⟩ := m.exists_starts
  obtain ⟨a, rest, rfl, hfail⟩ := first_of_starts hstarts
  unfold Device.Refuses at h
  generalize hdevice : m.device = device at h hcarried
  cases device with
  | given => exact absurd h id
  | bridged adb =>
    unfold Device.Carried at hcarried
    generalize deeds m.start.events = fs at hcarried ⊢
    cases hcarried with
    | called hserves hrest =>
      cases hserves with
      | served he =>
        cases he with
        | bridged hl =>
          rw [h] at hl
          cases hl
      | @refused fault hr ha =>
        have hfault : Except.error Fault.integerTooLarge = .error fault := h.symm.trans hr
        cases hfault
        obtain ⟨rfl, hresult⟩ := hfail .integerTooLarge (by rw [ha]; rfl)
        cases hrest
        refine ⟨?_, rfl⟩
        rintro ⟨launch, hstarted⟩
        rw [hresult] at hstarted
        cases hstarted

/-- **After a start that succeeded** come the sampling, the stop, and, if that succeeded, the handing
over. -/
theorem deeds_run_of_started (hs : m.Started) : ∃ b handed,
    deeds m.run.events = deeds m.start.events ++
      .slept (samplingTime m.request.duration) b :: (deeds m.stop.events ++ handed) ∧
      Unspawned handed ∧ (m.stop.result ≠ .ok true → handed = []) := by
  obtain ⟨b, hb⟩ := (sample_mayGo (run_mayGo m.host (sample m.request.duration) m.start.world)).1
  have hsampling : deeds m.sampling.events = [.slept (samplingTime m.request.duration) b] := hb
  by_cases hk : m.Kept
  · refine ⟨b, deeds m.handingOver.events, ?_, unspawned_of_handsOver m.handingOver_handsOver,
      fun h => absurd hk.2 h⟩
    rw [(m.run_of_kept hk).2, deeds_append, deeds_append, deeds_append, hsampling]
    rfl
  · refine ⟨b, [], ?_, unspawned_nil, fun _ => rfl⟩
    rw [(m.run_of_not_kept hs hk).2, deeds_append, deeds_append, hsampling, List.append_nil]
    rfl

/-! ## 3. An interruption after the launch -/

/-- A device that is asked for anything is ready. -/
theorem ready_of_mem {e : HostDeed} (hmem : e ∈ deeds m.run.events) : m.device.Ready := by
  rcases m.device.ready_or_refuses with hready | hrefuses
  · exact hready
  · obtain ⟨hs, hnil⟩ := start_of_refuses (hrefuses _ rfl)
    rw [(m.run_of_not_started hs).2, hnil] at hmem
    exact absurd hmem List.not_mem_nil

/-- **The stop as the host sees it:** a running check first, and an interrupt right after it if it was
positive.  If it was not, nothing more is done. -/
theorem exists_stop (hready : m.device.Ready) : ∃ b e tail,
    deeds m.stop.events = e :: tail ∧ m.Checks b e ∧
      (Positive b → ∃ e' tail', tail = e' :: tail' ∧ m.Interrupts e') ∧
      (¬ Positive b → tail = [] ∧ m.stop.result ≠ .ok true) := by
  obtain ⟨es, hcollects, hcarried⟩ := m.exists_collects
  have hshows := hready.shows hcarried
  -- the first deeds of a stop
  have hstops : ∀ {es r}, Stops m.config es r →
      (∃ a, es = [check m.config a] ∧ ¬ Positive a ∧ r ≠ .ok true) ∨
        ∃ a b rest, es = check m.config a :: interrupt m.config b :: rest ∧ Positive a := by
    intro es r h
    cases h with
    | @notRunning a r ha hr =>
      exact Or.inl ⟨a, rfl, not_positive_of_checkEnd (by rw [ha]; exact hr), hr⟩
    | notTold ha _ => exact Or.inr ⟨_, _, _, rfl, positive_of_checkEnd ha⟩
    | awaited ha _ _ => exact Or.inr ⟨_, _, _, rfl, positive_of_checkEnd ha⟩
  have hfirst : (∃ a, es = [check m.config a] ∧ ¬ Positive a ∧ m.stop.result ≠ .ok true) ∨
      ∃ a b rest, es = check m.config a :: interrupt m.config b :: rest ∧ Positive a := by
    cases hcollects with
    | notStopped hs hne =>
      rcases hstops hs with ⟨a, rfl, hpos, -⟩ | h
      · exact Or.inl ⟨a, rfl, hpos, hne⟩
      · exact Or.inr h
    | stopped hs _ =>
      rcases hstops hs with ⟨_, -, -, hne⟩ | ⟨a, b, rest, rfl, hpos⟩
      · exact absurd rfl hne
      · exact Or.inr ⟨a, b, _, rfl, hpos⟩
  rcases hfirst with ⟨a, rfl, hpos, hne⟩ | ⟨a, b, rest, rfl, hpos⟩
  · generalize deeds m.stop.events = fs at hshows
    cases hshows with
    | cons he hnil =>
      cases hnil
      cases he with
      | called he => exact ⟨a, _, [], rfl, he, fun h => absurd h hpos, fun _ => ⟨rfl, hne⟩⟩
  · generalize deeds m.stop.events = fs at hshows
    cases hshows with
    | cons he hrest =>
      cases hrest with
      | cons he' hrest =>
        cases he with
        | called he =>
          cases he' with
          | called he' =>
            exact ⟨a, _, _, rfl, he, fun _ => ⟨_, _, rfl, b, he'⟩, fun hneg => absurd hpos hneg⟩

theorem unspawned_stop (hready : m.device.Ready) : Unspawned (deeds m.stop.events) := by
  obtain ⟨es, hcollects, hcarried⟩ := m.exists_collects
  exact unspawned_of_shows (hready.shows hcarried) (unspawned_of_collects hcollects)

/-- What follows the start launches nothing. -/
theorem exists_rest (hready : m.device.Ready) :
    ∃ rest, deeds m.run.events = deeds m.start.events ++ rest ∧ Unspawned rest := by
  by_cases hs : m.Started
  · obtain ⟨b, handed, hdeeds, hhanded, -⟩ := deeds_run_of_started hs
    refine ⟨_, hdeeds, ?_⟩
    simp [Event.isSpawn, hhanded, unspawned_stop hready]
  · refine ⟨[], ?_, unspawned_nil⟩
    rw [(m.run_of_not_started hs).2, List.append_nil]

/-- **Where the launch is:** in the start, before its poll, and nowhere else. -/
theorem Launches.exists_poll {e : HostDeed} (h : m.Launches e) (hmem : e ∈ deeds m.run.events) :
    ∃ before after polled launch r, deeds m.start.events = before ++ e :: after ∧
      Unspawned before ∧ Unspawned after ∧ List.Forall₂ m.device.Shows polled after ∧
      PollGoes (CheckRound m.config true) m.config.startWait.delay m.config.startWait.maxRetries
        polled r ∧ m.start.result = .ok (launch, r) := by
  have hready := ready_of_mem hmem
  have hstart : e ∈ deeds m.start.events := by
    obtain ⟨rest, hrun, hrest⟩ := exists_rest hready
    rw [hrun] at hmem
    exact (List.mem_append.1 hmem).resolve_right (h.not_mem hrest)
  obtain ⟨es, hstarts, hcarried⟩ := m.exists_starts
  -- a start without a launch is cut short while the way is cleared
  have hclearing : ∀ {r}, Clears m.config es r → False := fun hc =>
    h.not_mem (unspawned_of_shows (hready.shows hcarried) (unspawned_of_clears hc)) hstart
  generalize hr : m.start.result = r at hstarts
  cases hstarts with
  | notCleared hc _ => exact absurd (hclearing hc) id
  | noLimit hc _ => exact absurd (hclearing hc) id
  | @launched clearing polled timeout held answer r hc _ hpoll =>
    obtain ⟨before, fs, hsplit, hbefore, hfs⟩ := hcarried.of_append
    have hshows := hready.shows hfs
    have hclear := unspawned_of_shows (hready.shows hbefore) (unspawned_of_clears hc)
    cases hshows with
    | @cons _ e' _ after he hafter =>
      have hwait := unspawned_of_shows hafter (unspawned_of_poll hpoll)
      rw [hsplit] at hstart
      -- the launch is the one call of a worker
      have heq : e = e' := by
        rcases List.mem_append.1 hstart with hmem | hmem
        · exact absurd hmem (h.not_mem hclear)
        · exact (List.mem_cons.1 hmem).resolve_right (h.not_mem hwait)
      subst heq
      exact ⟨before, after, polled, _, r, hsplit, hclear, hwait, hafter, hpoll, rfl⟩

/-- **A wait for the sampler that is interrupted** ends the start there, after a check that was not
positive. -/
theorem poll_interrupted {polled : List Deed} {back rest : List HostDeed} {r : Except Fault Bool}
    {seconds : Binary64}
    (hpoll : PollGoes (CheckRound m.config true) m.config.startWait.delay
      m.config.startWait.maxRetries polled r)
    (hshows : List.Forall₂ m.device.Shows polled (back ++ .slept seconds true :: rest)) :
    rest = [] ∧ r = .error .interrupted ∧
      ∃ waiting a e, back = waiting ++ [e] ∧ m.Checks a e ∧ ¬ Positive a := by
  obtain ⟨before, after, rfl, hbefore, hafter⟩ := exists_append_of_shows hshows
  cases hafter with
  | cons he hafter =>
    obtain rfl := he.eq_slept
    obtain ⟨rfl, hr, front, a, rfl, ha⟩ := end_of_interrupted hpoll rfl
    cases hafter
    obtain ⟨waiting, e, hback, hcheck⟩ := exists_check_of_shows hbefore
    refine ⟨rfl, hr, waiting, a, e, hback, hcheck, not_positive_of_checkEnd ?_⟩
    rw [ha]
    exact fun h => by cases h

/-- A stop does not sleep before its interrupt, and not at all if there is none. -/
theorem no_sleep_before_interrupt {c : Except Fault ShellResult} {e : HostDeed}
    {tail handed between rest : List HostDeed} {seconds : Binary64} (hcheck : m.Checks c e)
    (hpos : Positive c → ∃ e' tail', tail = e' :: tail' ∧ m.Interrupts e')
    (hneg : ¬ Positive c → tail = [] ∧ handed = []) (hbetween : ∀ e ∈ between, ¬ m.Interrupts e) :
    e :: (tail ++ handed) ≠ between ++ .slept seconds true :: rest := by
  intro h
  match between with
  | [] => exact hcheck.ne_slept seconds true (List.cons.inj h).1
  | _ :: between =>
    have htail := (List.cons.inj h).2
    by_cases hc : Positive c
    · obtain ⟨e', tail', rfl, htold⟩ := hpos hc
      match between with
      | [] =>
        obtain ⟨a, htold⟩ := htold
        exact htold.ne_slept seconds true (List.cons.inj htail).1
      | e'' :: between =>
        obtain ⟨rfl, -⟩ := List.cons.inj htail
        exact hbetween e' (List.mem_cons_of_mem _ List.mem_cons_self) htold
    · obtain ⟨rfl, rfl⟩ := hneg hc
      exact List.append_ne_nil_of_right_ne_nil between (List.cons_ne_nil _ rest) htail.symm

/-- **After a start that succeeded, a sleep before the first interrupt is the sampling:** right before
it stands a positive check, and right after it the stop. -/
theorem Launches.sampling_interrupted {launch : HostDeed} {front back rest : List HostDeed}
    {seconds : Binary64} (hlaunch : m.Launches launch) (hback : ∀ e ∈ back, ¬ m.Interrupts e)
    (h : deeds m.run.events = front ++ launch :: (back ++ .slept seconds true :: rest))
    (hs : m.Started) :
    (∃ waiting a e, back = waiting ++ [e] ∧ m.Checks a e ∧ Positive a) ∧
      ∃ b e tail, rest = e :: tail ∧ m.Checks b e ∧
        (Positive b → ∃ e' tail', tail = e' :: tail' ∧ m.Interrupts e') := by
  have hmem : launch ∈ deeds m.run.events := by
    rw [h]
    exact List.mem_append_right _ List.mem_cons_self
  have hready := ready_of_mem hmem
  obtain ⟨before, after, polled, l, r, hstart, hbefore, hafter, hshows, hpoll, hr⟩ :=
    hlaunch.exists_poll hmem
  have hmet : r = .ok true := by
    obtain ⟨l', hl'⟩ := hs
    rw [hr] at hl'
    exact congrArg Prod.snd (Except.ok.inj hl')
  obtain ⟨b, handed, hrun, hhanded, hfailed⟩ := deeds_run_of_started hs
  obtain ⟨c, e, tail, hstop, hcheck, hpos, hneg⟩ := exists_stop hready
  have hrest : Unspawned (.slept (samplingTime m.request.duration) b ::
      (deeds m.stop.events ++ handed)) := by
    simp [Event.isSpawn, hhanded, unspawned_stop hready]
  have hsplit : launch ∉ after ++ .slept (samplingTime m.request.duration) b ::
      (deeds m.stop.events ++ handed) := hlaunch.not_mem ((unspawned_append _ _).2 ⟨hafter, hrest⟩)
  rw [hrun, hstart, List.append_assoc, List.cons_append] at h
  obtain ⟨rfl, -, htail⟩ :=
    (List.append_cons_inj_of_notMem (hlaunch.not_mem hbefore) hsplit).1 h
  rw [hstop, List.cons_append] at htail
  have hsampling : after = back ∧ rest = e :: (tail ++ handed) := by
    rcases List.append_eq_append_iff.1 htail with ⟨between, hbetween, hsleep⟩ |
      ⟨between, hbetween, hsleep⟩
    · match between with
      | [] => exact ⟨by rw [hbetween, List.append_nil], (List.cons.inj hsleep).2.symm⟩
      | x :: between =>
        -- the sleep would be one of the stop
        refine absurd (List.cons.inj hsleep).2 (no_sleep_before_interrupt hcheck hpos ?_ ?_)
        · exact fun hc => ⟨(hneg hc).1, hfailed (hneg hc).2⟩
        · intro y hy
          refine hback y ?_
          rw [hbetween]
          exact List.mem_append_right _ (List.mem_cons_of_mem _ hy)
    · match between with
      | [] => exact ⟨by rw [hbetween, List.append_nil], (List.cons.inj hsleep).2⟩
      | x :: between =>
        -- the sleep would be one of the poll, which was not broken off
        obtain ⟨rfl, -⟩ := List.cons.inj hsleep
        rw [hbetween] at hshows
        obtain ⟨-, hbroken, -⟩ := poll_interrupted hpoll hshows
        rw [hmet] at hbroken
        cases hbroken
  obtain ⟨rfl, rfl⟩ := hsampling
  obtain ⟨front, a, rfl, ha⟩ := end_of_met hpoll hmet
  obtain ⟨waiting, e', hwaiting, hlast⟩ := exists_check_of_shows hshows
  refine ⟨⟨waiting, a, e', hwaiting, hlast, positive_of_checkEnd ha⟩, c, e, tail ++ handed, rfl,
    hcheck, fun hc => ?_⟩
  obtain ⟨e'', tail', rfl, htold⟩ := hpos hc
  exact ⟨e'', tail' ++ handed, rfl, htold⟩

/-- **In a start that did not succeed, a sleep after the launch is one of the wait:** right before it
stands a check that is not positive, and nothing after it. -/
theorem Launches.wait_interrupted {launch : HostDeed} {front back rest : List HostDeed}
    {seconds : Binary64} (hlaunch : m.Launches launch)
    (h : deeds m.run.events = front ++ launch :: (back ++ .slept seconds true :: rest))
    (hs : ¬ m.Started) :
    (∃ waiting a e, back = waiting ++ [e] ∧ m.Checks a e ∧ ¬ Positive a) ∧ rest = [] ∧
      m.run.result = .error .interrupted := by
  have hmem : launch ∈ deeds m.run.events := by
    rw [h]
    exact List.mem_append_right _ List.mem_cons_self
  obtain ⟨before, after, polled, l, r, hstart, hbefore, hafter, hshows, hpoll, hr⟩ :=
    hlaunch.exists_poll hmem
  obtain ⟨hresult, hevents⟩ := m.run_of_not_started hs
  rw [hevents, hstart] at h
  obtain ⟨rfl, -, rfl⟩ :=
    (List.append_cons_inj_of_notMem (hlaunch.not_mem hbefore) (hlaunch.not_mem hafter)).1 h
  obtain ⟨rfl, rfl, hwait⟩ := poll_interrupted hpoll hshows
  refine ⟨hwait, rfl, ?_⟩
  rw [hresult, hr]
  rfl

/-- **What follows an interruption after the launch.**  If the user interrupts a sleep after the
launch, and the sampler was not told to end before it, then the last thing before that sleep is a
running check.  If the sampler was seen to run, this was the sampling, and a stop follows at once:
its running check, and its interrupt if the check is positive.  If the sampler was still waited for,
nothing follows at all: the run breaks off, and the launch is left to itself. -/
theorem interrupted_afterLaunch {launch : HostDeed} {front back rest : List HostDeed}
    {seconds : Binary64} (hlaunch : m.Launches launch) (hback : ∀ e ∈ back, ¬ m.Interrupts e)
    (h : deeds m.run.events = front ++ launch :: (back ++ .slept seconds true :: rest)) :
    ∃ waiting a e, back = waiting ++ [e] ∧ m.Checks a e ∧
      (Positive a → ∃ b e' tail, rest = e' :: tail ∧ m.Checks b e' ∧
        (Positive b → ∃ e'' tail', tail = e'' :: tail' ∧ m.Interrupts e'')) ∧
      (¬ Positive a → rest = [] ∧ m.run.result = .error .interrupted) ∧
      ∀ inv given files, Invocation.ComesTo inv given files m.config m.device (.record m.request) →
        (inv.run given files).run m.host m.state = exiting m.run := by
  by_cases hs : m.Started
  · obtain ⟨⟨waiting, a, e, hwaiting, hcheck, hpos⟩, hstop⟩ :=
      hlaunch.sampling_interrupted hback h hs
    exact ⟨waiting, a, e, hwaiting, hcheck, fun _ => hstop, fun hneg => absurd hpos hneg,
      fun _ _ _ h => h.run_eq m.host m.state⟩
  · obtain ⟨⟨waiting, a, e, hwaiting, hcheck, hneg⟩, hend⟩ := hlaunch.wait_interrupted h hs
    exact ⟨waiting, a, e, hwaiting, hcheck, fun hpos => absurd hpos hneg, fun _ => hend,
      fun _ _ _ h => h.run_eq m.host m.state⟩

end Recording

/-- A host with a device whose sampler is seen after as many running checks as its state says; an
interrupt hides it again for one check. -/
def slowHost : World HostCall HostAnswer Nat where
  call
    | .shell c, left =>
      match c.purpose with
      | .runningCheck =>
        (Except.ok (if left = 0 then { output := "7 12\n" } else { code := 1 }), left - 1)
      | .interrupt => (Except.ok {}, 1)
      | _ => (Except.ok {}, left)
    | .process _, left => (.exited {}, left)
    | .makeDirectories _, left => (Except.ok (), left)
    | .print _, left => ((), left)
  spawn
    | .shell _, left => ((false, Except.ok {}), left)
    | .process _, left => ((false, ProcessOutcome.exited {}), left)
    | .makeDirectories _, left => ((false, Except.ok ()), left)
    | .print _, left => ((false, ()), left)
  sleep _ left := (false, left)

/-- A recording of which one sleep is interrupted. -/
def interruptedRecording (left n : Nat) : Recording (Nat × Nat) :=
  Recording.withSleep
    { host := slowHost, state := left, config := {}, device := .given,
      request := { destination := "a.data" } } n true

/-- The launch of `interruptedRecording`. -/
def quietLaunch : HostDeed :=
  .spawned (.shell ⟨.start, SamplerConfig.startCommand {} "record" "", some Binary64.zero⟩) false
    (Except.ok {})

/-- A running check that finds nothing. -/
def emptyCheck : HostDeed :=
  .called (.shell ⟨.runningCheck, SamplerConfig.runningCommand {}, none⟩) (Except.ok { code := 1 })

theorem launches_quietLaunch (left n : Nat) : (interruptedRecording left n).Launches quietLaunch :=
  ⟨_, false, _, .given⟩

/-- Running checks and sleeps are no interrupts. -/
theorem not_interrupts_emptyCheck (left n : Nat) (seconds : Binary64) :
    ∀ e ∈ [emptyCheck, .slept seconds false, emptyCheck],
      ¬ (interruptedRecording left n).Interrupts e := by
  rintro e he ⟨b, h⟩
  simp only [List.mem_cons, List.not_mem_nil, or_false] at he
  rcases he with rfl | rfl | rfl <;> cases h

/-- The second wait for the sampler is interrupted, and the run breaks off. -/
theorem interrupted_afterLaunch_secondWait :
    (interruptedRecording 3 1).Launches quietLaunch ∧
      (∀ e ∈ [emptyCheck, .slept defaultStartWait.delay false, emptyCheck],
        ¬ (interruptedRecording 3 1).Interrupts e) ∧
      deeds (interruptedRecording 3 1).run.events = [emptyCheck] ++ quietLaunch ::
        ([emptyCheck, .slept defaultStartWait.delay false, emptyCheck] ++
          .slept defaultStartWait.delay true :: []) ∧
      (interruptedRecording 3 1).run.result = .error .interrupted := by
  have h : deeds (interruptedRecording 3 1).run.events = [emptyCheck] ++ quietLaunch ::
      ([emptyCheck, .slept defaultStartWait.delay false, emptyCheck] ++
        .slept defaultStartWait.delay true :: []) := rfl
  have hback := not_interrupts_emptyCheck 3 1 defaultStartWait.delay
  obtain ⟨waiting, a, e, hwaiting, hcheck, -, hneg, -⟩ :=
    Recording.interrupted_afterLaunch (launches_quietLaunch 3 1) hback h
  refine ⟨launches_quietLaunch 3 1, hback, h, (hneg ?_).2⟩
  -- the last check found nothing
  have hlast : [emptyCheck, .slept defaultStartWait.delay false, emptyCheck].getLast? = some e := by
    rw [hwaiting, List.getLast?_concat]
  obtain rfl := Option.some.inj hlast
  cases hcheck
  rintro ⟨r, hr, hcode, -⟩
  cases hr
  cases hcode

/-- **An interruption while the sampler is waited for leaves the launch behind:** nothing is done
after it. -/
theorem interrupted_leavesLaunch :
    ∃ front back rest seconds,
      (interruptedRecording 2 0).Launches quietLaunch ∧
      (∀ e ∈ back, ¬ (interruptedRecording 2 0).Interrupts e) ∧
      deeds (interruptedRecording 2 0).run.events = front ++ quietLaunch ::
        (back ++ .slept seconds true :: rest) ∧
      (¬ ∃ b, ∃ e ∈ rest, (interruptedRecording 2 0).Checks b e) ∧
      (interruptedRecording 2 0).run.result = .error .interrupted := by
  refine ⟨[emptyCheck], [emptyCheck], [], _, launches_quietLaunch 2 0, fun e he => ?_, rfl, ?_,
    by decide +kernel⟩
  · rw [List.mem_singleton.1 he]
    exact not_interrupts_emptyCheck 2 0 .zero emptyCheck List.mem_cons_self
  · rintro ⟨b, e, he, -⟩
    exact absurd he List.not_mem_nil

end CommandLine

end DeviceSampling
