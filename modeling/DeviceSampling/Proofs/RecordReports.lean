/-
# What a recording reports

A recording says where its record is, and where its copy is, and ends with an exit code.  This is
what happened, on every host.  The user may interrupt the sampling; that ends the sampling and
nothing else, and the record is kept, handed over and told of as it would have been.

* `World.withSleep`: a world that counts its sleeps and settles one of them;
* `run_withSleep`: a run does not tell how a sleep is settled that is not in it;
* `Delivered.reports`, `Delivered.exists_pull`, `move_before_copy`: what is said of the copy, when one
  is made, and what comes before it;
* `withSampling`: a recording with its sampling interrupted, or not;
* `run_reports`: **what a recording reports is what happened, and an interruption of the sampling
  makes no difference to it.**
-/
import DeviceSampling.Proofs.RecordEnds

namespace DeviceSampling

/-! ## 1. Sleeps -/

namespace Dialog

variable {C : Type} {R : C → Type} {σ α : Type}

/-- Whether an event is a sleep. -/
def Event.isSleep : Event C R → Bool
  | .slept .. => true
  | _ => false

/-- The number of sleeps among some events. -/
def sleepCount (es : List (Event C R)) : Nat := es.countP Event.isSleep

/-- **The world with one sleep settled.**  It counts its sleeps from zero, and the `n`-th is
interrupted or not as `b` says; all else is as before. -/
def World.withSleep (w : World C R σ) (n : Nat) (b : Bool) : World C R (σ × Nat) where
  call c p := ((w.call c p.1).1, (w.call c p.1).2, p.2)
  spawn c p := ((w.spawn c p.1).1, (w.spawn c p.1).2, p.2)
  sleep seconds p :=
    (if p.2 = n then b else (w.sleep seconds p.1).1, (w.sleep seconds p.1).2, p.2 + 1)

/-- **A run does not tell how a sleep is settled that is not in it,** because it comes before or
after it. -/
theorem run_withSleep (w : World C R σ) (n : Nat) (b : Bool) (d : Dialog C R α) (s : σ) (k : Nat)
    (h : n < k ∨ k + sleepCount (d.run w s).events ≤ n) :
    d.run (w.withSleep n b) (s, k) =
      ⟨(d.run w s).result, (d.run w s).events,
        ((d.run w s).world, k + sleepCount (d.run w s).events)⟩ := by
  induction d generalizing s k with
  | done a => rfl
  | fail f => rfl
  | log r next ih =>
    show ((next.run (w.withSleep n b) (s, k)).after _) = _
    rw [ih s k h]
    rfl
  | call c next ih =>
    show (((next (w.call c s).1).run (w.withSleep n b) ((w.call c s).2, k)).after _) = _
    rw [ih (w.call c s).1 (w.call c s).2 k h]
    rfl
  | spawn c next ih =>
    show (((next (w.spawn c s).1.1 (w.spawn c s).1.2).run (w.withSleep n b)
      ((w.spawn c s).2, k)).after _) = _
    rw [ih (w.spawn c s).1.1 (w.spawn c s).1.2 (w.spawn c s).2 k h]
    rfl
  | sleep seconds next ih =>
    -- this sleep is counted, and is not the one that is settled
    have hcount : sleepCount ((Dialog.sleep seconds next).run w s).events =
        sleepCount ((next (w.sleep seconds s).1).run w (w.sleep seconds s).2).events + 1 :=
      List.countP_cons_of_pos rfl
    have hk : k ≠ n := by omega
    have hsettled : (w.withSleep n b).sleep seconds (s, k) =
        ((w.sleep seconds s).1, (w.sleep seconds s).2, k + 1) := by
      simp only [World.withSleep, hk, if_false]
    have hnext := ih (w.sleep seconds s).1 (w.sleep seconds s).2 (k + 1) (by omega)
    have hrun : (Dialog.sleep seconds next).run (w.withSleep n b) (s, k) =
        ((next (w.sleep seconds s).1).run (w.withSleep n b)
          ((w.sleep seconds s).2, k + 1)).after (.slept seconds (w.sleep seconds s).1) := by
      simp only [run, hsettled]
    rw [hrun, hnext, hcount]
    simp only [Outcome.after, run, Nat.add_assoc, Nat.add_comm 1]

end Dialog

open Dialog Session

namespace CommandLine

namespace Recording

variable {σ : Type} (m : Recording σ)

/-! ## 2. What a recording reports -/

/-- A record that was not kept makes no success. -/
theorem result_of_not_kept (hk : ¬ m.Kept) : m.run.result ≠ .ok 0 := by
  have hone : ∀ {r : Except Fault Bool}, r.map (fun _ => 1) ≠ Except.ok 0 := by
    intro r
    cases r <;> exact fun h => by cases h
  by_cases hs : m.Started
  · rw [(m.run_of_not_kept hs hk).1]
    exact hone
  · rw [(m.run_of_not_started hs).1]
    cases m.start.result with
    | error fault => exact fun h => by cases h
    | ok p => exact hone

/-- A copy that ended was wanted. -/
theorem PullEnded.wanted {m : Recording σ} {outcome : ProcessOutcome} (h : m.PullEnded outcome) :
    m.request.pull ≠ none := by
  obtain ⟨adb, path, limit, -, hpull, -⟩ := h
  rw [hpull]
  exact Option.some_ne_none path

/-- **When a delivery succeeds, and what it says of the copy.** -/
theorem Delivered.reports {m : Recording σ} {lines : List String} {r : Except Fault Nat}
    (h : m.Delivered lines r) :
    (r = .ok 0 ↔ (m.request.pull ≠ none → m.Pulled)) ∧
      (¬ m.Pulled → lines = [wroteLine m.request.destination]) ∧
      (m.Pulled → ∃ path, m.request.pull = some path ∧
        lines = [wroteLine m.request.destination, pulledLine path]) := by
  -- a run without a copy says only where the record is, and fails if a copy is wanted
  have hwithout : ∀ {r : Except Fault Nat}, ¬ m.Pulled → (r = .ok 0 ↔ m.request.pull = none) →
      (r = .ok 0 ↔ (m.request.pull ≠ none → m.Pulled)) ∧
        (¬ m.Pulled → [wroteLine m.request.destination] = [wroteLine m.request.destination]) ∧
        (m.Pulled → ∃ path, m.request.pull = some path ∧
          [wroteLine m.request.destination] =
            [wroteLine m.request.destination, pulledLine path]) := by
    intro r hnot hr
    refine ⟨hr.trans ⟨fun hnone h => absurd hnone h, fun h => ?_⟩, fun _ => rfl,
      fun h => absurd h hnot⟩
    by_contra hwanted
    exact hnot (h hwanted)
  have hnone : (∀ outcome, ¬ m.PullEnded outcome) → ¬ m.Pulled := by
    rintro hnever ⟨r, -, hr⟩
    exact hnever _ hr
  cases h with
  | left hpull =>
    refine hwithout ?_ (iff_of_true rfl hpull)
    rintro ⟨r, -, hr⟩
    exact hr.wanted hpull
  | unbridged hwanted hgiven =>
    refine hwithout ?_ (iff_of_false (fun h => by cases h) hwanted)
    rintro ⟨r, -, adb, path, limit, hdevice, -⟩
    rw [hgiven] at hdevice
    cases hdevice
  | noDirectory hpull hnever =>
    refine hwithout (hnone hnever) (iff_of_false (fun h => by cases h) ?_)
    rw [hpull]
    exact Option.some_ne_none _
  | noLimit hwanted hnever =>
    exact hwithout (hnone hnever) (iff_of_false (fun h => by cases h) hwanted)
  | broken hended hnot =>
    refine hwithout ?_ (iff_of_false (fun h => by cases h) hended.wanted)
    rintro ⟨r, -, hr⟩
    exact hnot r (hended.unique hr)
  | @refused r hended hcode =>
    refine hwithout ?_ (iff_of_false (fun h => by cases h) hended.wanted)
    rintro ⟨r', hcode', hr⟩
    obtain rfl := ProcessOutcome.exited.inj (hended.unique hr)
    exact hcode hcode'
  | @copied path r hended hcode hpull =>
    have hpulled : m.Pulled := ⟨r, hcode, hended⟩
    exact ⟨iff_of_true rfl fun _ => hpulled, fun h => absurd hpulled h, fun _ => ⟨path, hpull, rfl⟩⟩

/-- **A record that is delivered is copied** if a copy is wanted and there is a bridge, unless the run
ends with a fault before it: the directory is not made, or the time limit is beyond the doubles. -/
theorem Delivered.exists_pull {m : Recording σ} {lines : List String} {r : Except Fault Nat}
    (h : m.Delivered lines r) {adb : Adb} {path : HostPath} (hdevice : m.device = .bridged adb)
    (hpull : m.request.pull = some path) :
    (∃ limit outcome, pull adb m.request.destination path limit outcome ∈ m.run.events) ∨
      ∃ fault, r = .error fault ∧
        (directory path (.error fault) ∈ m.run.events ∨ adb.limit none = .error fault) := by
  have hended : ∀ {outcome}, m.PullEnded outcome →
      ∃ limit outcome, pull adb m.request.destination path limit outcome ∈ m.run.events := by
    rintro outcome ⟨adb', path', limit, hdevice', hpull', hmem⟩
    obtain rfl := Device.bridged.inj (hdevice.symm.trans hdevice')
    obtain rfl := Option.some.inj (hpull.symm.trans hpull')
    exact ⟨limit, outcome, hmem⟩
  cases h with
  | left hnone =>
    rw [hpull] at hnone
    cases hnone
  | unbridged _ hgiven =>
    rw [hdevice] at hgiven
    cases hgiven
  | noDirectory hpull' _ hmem =>
    obtain rfl := Option.some.inj (hpull.symm.trans hpull')
    exact Or.inr ⟨_, rfl, Or.inl hmem⟩
  | noLimit _ _ hdevice' hlimit =>
    obtain rfl := Device.bridged.inj (hdevice.symm.trans hdevice')
    exact Or.inr ⟨_, rfl, Or.inr hlimit⟩
  | broken hend => exact Or.inl (hended hend)
  | refused hend => exact Or.inl (hended hend)
  | copied hend => exact Or.inl (hended hend)

/-- A stop that succeeded has moved the record. -/
theorem exists_move_of_kept (hk : m.Kept) :
    ∃ a e, m.device.Served ⟨.move, m.config.moveCommand m.request.destination, none⟩ a e ∧
      Quiet a ∧ e ∈ m.stop.events := by
  obtain ⟨es, hcollects, hcarried⟩ := m.exists_collects
  rw [hk.2] at hcollects
  have hmoved : ∃ b, commandEnd b = .ok true ∧ move m.config m.request.destination b ∈ es := by
    generalize hr : Except.ok true = r at hcollects ⊢
    cases hcollects with
    | notStopped _ hne => exact absurd hr.symm hne
    | stopped _ hmoves =>
      cases hmoves with
      | directly => exact ⟨_, rfl, List.mem_append_right _ List.mem_cons_self⟩
      | notMade _ _ hne => exact absurd hr.symm hne
      | made =>
        exact ⟨_, rfl, List.mem_append_right _ (List.mem_cons_of_mem _ List.mem_cons_self)⟩
  obtain ⟨b, hb, hmem⟩ := hmoved
  obtain ⟨front, hserves, hsub⟩ := hcarried.exists_served hmem
  cases hserves with
  | @served e he =>
    exact ⟨b, e, he, quiet_of_commandEnd (c := ⟨.move, "", none⟩) hb,
      (mem_deeds.1 (hsub List.mem_cons_self)).1⟩
  | refused _ hfault =>
    rw [hfault] at hb
    cases ‹Fault› <;> cases hb

/-- **A copy comes after a move that went quietly.** -/
theorem move_before_copy {c : ProcessCall} (hc : c.purpose = none) {outcome : ProcessOutcome}
    {front back : List HostDeed}
    (h : m.run.events = front ++ .called (.process c) outcome :: back) :
    ∃ a, ∃ e ∈ front,
      m.device.Served ⟨.move, m.config.moveCommand m.request.destination, none⟩ a e ∧ Quiet a := by
  have hmem : .called (.process c) outcome ∈ m.run.events := by
    rw [h]
    exact List.mem_append_right _ List.mem_cons_self
  have hk : m.Kept := ((m.mem_run_iff hc).1 hmem).1
  have hbefore := m.not_mem_before_handingOver hc outcome
  obtain ⟨a, e, he, hquiet, hmove⟩ := m.exists_move_of_kept hk
  have hstop : e ∈ m.start.events ++ (m.sampling.events ++ m.stop.events) :=
    List.mem_append_right _ (List.mem_append_right _ hmove)
  refine ⟨a, e, ?_, he, hquiet⟩
  rw [(m.run_of_kept hk).2, ← List.append_assoc m.sampling.events, ← List.append_assoc] at h
  rcases List.append_eq_append_iff.1 h with ⟨rest, rfl, -⟩ | ⟨rest, hfront, hrest⟩
  · exact List.mem_append_left rest hstop
  · cases rest with
    | nil =>
      rw [hfront, List.append_nil] at hstop
      exact hstop
    | cons x rest =>
      -- the copy would be among the deeds up to the stop
      obtain ⟨rfl, -⟩ := List.cons.inj hrest
      rw [hfront] at hbefore
      exact absurd (List.mem_append_right front List.mem_cons_self) hbefore

/-! ## 3. An interruption of the sampling -/

/-- The recording on the same host with one sleep settled. -/
def withSleep (n : Nat) (b : Bool) : Recording (σ × Nat) where
  host := m.host.withSleep n b
  state := (m.state, 0)
  config := m.config
  device := m.device
  request := m.request

/-- **The recording with its sampling interrupted, or not:** the sampling is the one sleep that comes
right after the sleeps of the start. -/
def withSampling (interrupted : Bool) : Recording (σ × Nat) :=
  m.withSleep (sleepCount m.start.events) interrupted

/-- The start does not tell how the sampling is settled. -/
theorem start_withSampling (b : Bool) : (m.withSampling b).start =
    ⟨m.start.result, m.start.events, (m.start.world, sleepCount m.start.events)⟩ := by
  have h := run_withSleep m.host (sleepCount m.start.events) b
    (m.device.carryOut (startCollecting m.config m.request.subcommand m.request.arguments)) m.state 0
    (Or.inr (Nat.le_of_eq (Nat.zero_add _)))
  rw [Nat.zero_add] at h
  exact h

theorem started_withSampling (b : Bool) : (m.withSampling b).Started ↔ m.Started := by
  unfold Started
  rw [m.start_withSampling b]

/-- The sampling is settled as it should be, and the host after it does not tell how. -/
theorem sampling_withSampling (b : Bool) :
    deeds (m.withSampling b).sampling.events = [.slept (samplingTime m.request.duration) b] ∧
      (m.withSampling b).sampling.world =
        ((m.host.sleep (samplingTime m.request.duration) m.start.world).2,
          sleepCount m.start.events + 1) := by
  have hsleep : (m.withSampling b).host.sleep (samplingTime m.request.duration)
      (m.start.world, sleepCount m.start.events) =
        (b, (m.host.sleep (samplingTime m.request.duration) m.start.world).2,
          sleepCount m.start.events + 1) := by
    simp only [withSampling, withSleep, World.withSleep, if_true]
  have hrun : (m.withSampling b).sampling =
      ((if b then say .info "Interrupted; stopping simpleperf early." else .done () : Host Unit).run
        (m.withSampling b).host ((m.host.sleep (samplingTime m.request.duration) m.start.world).2,
          sleepCount m.start.events + 1)).after (.slept (samplingTime m.request.duration) b) := by
    unfold sampling
    rw [m.start_withSampling b]
    show (Dialog.sleep (samplingTime m.request.duration) _).run _ _ = _
    simp only [Dialog.run, hsleep]
  rw [hrun]
  cases b <;> exact ⟨rfl, rfl⟩

/-- **What follows the sampling does not tell how it was settled.** -/
theorem run_after_withSampling {α : Type} (d : Host α) (s : σ) {k : Nat}
    (hk : sleepCount m.start.events < k) :
    d.run (m.withSampling true).host (s, k) = d.run (m.withSampling false).host (s, k) ∧
      sleepCount m.start.events < (d.run (m.withSampling false).host (s, k)).world.2 := by
  have htrue := run_withSleep m.host _ true d s k (Or.inl hk)
  have hfalse := run_withSleep m.host _ false d s k (Or.inl hk)
  refine ⟨htrue.trans hfalse.symm, ?_⟩
  have hworld : (d.run (m.withSampling false).host (s, k)).world.2 =
      k + sleepCount (d.run m.host s).events := congrArg (fun o => o.world.2) hfalse
  omega

theorem stop_withSampling : (m.withSampling true).stop = (m.withSampling false).stop ∧
    sleepCount m.start.events < (m.withSampling false).stop.world.2 := by
  unfold stop
  rw [(m.sampling_withSampling true).2, (m.sampling_withSampling false).2]
  exact m.run_after_withSampling _ _ (Nat.lt_succ_self _)

/-- The stop and what follows it do not tell how the sampling was settled. -/
theorem after_withSampling :
    ((m.withSampling true).stop.andThen fun kept p =>
        ((m.withSampling true).afterStop kept).run (m.withSampling true).host p) =
      (m.withSampling false).stop.andThen fun kept p =>
        ((m.withSampling false).afterStop kept).run (m.withSampling false).host p := by
  obtain ⟨hstop, hcount⟩ := m.stop_withSampling
  rw [hstop]
  unfold Outcome.andThen
  cases (m.withSampling false).stop.result with
  | error fault => rfl
  | ok kept =>
    have hrun : ((m.withSampling true).afterStop kept).run (m.withSampling true).host
        (m.withSampling false).stop.world =
          ((m.withSampling false).afterStop kept).run (m.withSampling false).host
            (m.withSampling false).stop.world :=
      (m.run_after_withSampling (m.afterStop kept) _ hcount).1
    dsimp only
    rw [hrun]

/-- **The run with its sampling settled** differs in the one sleep, and in no other deed. -/
theorem run_withSampling_of_started (hs : m.Started) : ∃ back, ∀ b,
    deeds (m.withSampling b).run.events = deeds m.start.events ++
        .slept (samplingTime m.request.duration) b :: back ∧
      (m.withSampling b).run.result = (m.withSampling false).run.result := by
  have hafter := m.after_withSampling
  refine ⟨deeds ((m.withSampling false).stop.andThen fun kept p =>
    ((m.withSampling false).afterStop kept).run (m.withSampling false).host p).events, fun b => ?_⟩
  obtain ⟨hresult, hevents⟩ :=
    (m.withSampling b).run_of_started ((m.started_withSampling b).2 hs)
  have hplain := ((m.withSampling false).run_of_started ((m.started_withSampling false).2 hs)).1
  have hdeeds := (m.sampling_withSampling b).1
  have hstart := m.start_withSampling b
  rw [hresult, hevents, hplain, deeds_append, deeds_append, hdeeds, hstart]
  cases b with
  | true =>
    rw [hafter]
    exact ⟨rfl, rfl⟩
  | false => exact ⟨rfl, rfl⟩

/-- A start that fails leaves no sampling to settle. -/
theorem run_withSampling_of_not_started (hs : ¬ m.Started) (b : Bool) :
    (m.withSampling b).run.result = m.run.result ∧
      (m.withSampling b).run.events = m.run.events := by
  obtain ⟨hresult, hevents⟩ := m.run_of_not_started hs
  obtain ⟨hresult', hevents'⟩ :=
    (m.withSampling b).run_of_not_started (mt (m.started_withSampling b).1 hs)
  rw [hresult, hevents, hresult', hevents', m.start_withSampling b]
  exact ⟨rfl, rfl⟩

/-- **What a recording reports is what happened, and an interruption of the sampling makes no
difference to it.**  It succeeds exactly if the record was kept and, where a copy is wanted, the
copy was made.  It says where the record is if it was kept, where the copy is if that was made, and
nothing else.  A record that was kept is copied if a copy is wanted and there is a bridge, unless the
run ends with a fault before that; and nothing is copied before the record was moved.  Two runs of which the sampling of
one is interrupted do the same but for that one sleep.  All this holds of every host, and of the
invocations that come to the recording. -/
theorem run_reports :
    (m.run.result = .ok 0 ↔ m.Kept ∧ (m.request.pull ≠ none → m.Pulled)) ∧
    (¬ m.Kept → printed m.run.events = []) ∧
    (m.Kept → ¬ m.Pulled → printed m.run.events = [wroteLine m.request.destination]) ∧
    (m.Kept → m.Pulled → ∃ path, m.request.pull = some path ∧
      printed m.run.events = [wroteLine m.request.destination, pulledLine path]) ∧
    (m.Kept → ∀ adb path, m.device = .bridged adb → m.request.pull = some path →
      (∃ limit outcome, pull adb m.request.destination path limit outcome ∈ m.run.events) ∨
        ∃ fault, m.run.result = .error fault ∧
          (directory path (.error fault) ∈ m.run.events ∨ adb.limit none = .error fault)) ∧
    (∀ adb source path limit outcome front back,
      m.run.events = front ++ pull adb source path limit outcome :: back →
        ∃ a, ∃ e ∈ front,
          m.device.Served ⟨.move, m.config.moveCommand m.request.destination, none⟩ a e ∧
            Quiet a) ∧
    ((m.withSampling true).run.result = (m.withSampling false).run.result ∧
      printed (m.withSampling true).run.events = printed (m.withSampling false).run.events ∧
      calls (m.withSampling true).run.events = calls (m.withSampling false).run.events ∧
      (m.Started → ∃ back, ∀ b, deeds (m.withSampling b).run.events =
        deeds m.start.events ++ .slept (samplingTime m.request.duration) b :: back)) ∧
    ∀ inv given files, Invocation.ComesTo inv given files m.config m.device (.record m.request) →
      (inv.run given files).run m.host m.state = exiting m.run ∧
        ∀ b, (inv.run given files).run (m.withSampling b).host (m.withSampling b).state =
          exiting (m.withSampling b).run := by
  have hkept : m.Kept → _ := fun hk => (m.delivered_of_kept hk).reports
  have hsuccess : m.run.result = .ok 0 ↔ m.Kept ∧ (m.request.pull ≠ none → m.Pulled) := by
    by_cases hk : m.Kept
    · rw [(hkept hk).1]
      exact (and_iff_right hk).symm
    · exact iff_of_false (m.result_of_not_kept hk) fun h => hk h.1
  have hsampling : (m.withSampling true).run.result = (m.withSampling false).run.result ∧
      printed (m.withSampling true).run.events = printed (m.withSampling false).run.events ∧
      calls (m.withSampling true).run.events = calls (m.withSampling false).run.events := by
    by_cases hs : m.Started
    · obtain ⟨back, hback⟩ := m.run_withSampling_of_started hs
      refine ⟨(hback true).2, ?_, ?_⟩
      · rw [← printed_deeds, (hback true).1, ← printed_deeds (m.withSampling false).run.events,
          (hback false).1]
        rw [printed_append, printed_append]
        rfl
      · rw [← calls_deeds, (hback true).1, ← calls_deeds (m.withSampling false).run.events,
          (hback false).1]
        rw [calls_append, calls_append]
        rfl
    · obtain ⟨hresult, hevents⟩ := m.run_withSampling_of_not_started hs true
      obtain ⟨hresult', hevents'⟩ := m.run_withSampling_of_not_started hs false
      rw [hresult, hevents, hresult', hevents']
      exact ⟨rfl, rfl, rfl⟩
  refine ⟨hsuccess, m.printed_of_not_kept, fun hk => (hkept hk).2.1, fun hk => (hkept hk).2.2,
    fun hk _ _ hdevice hpull => (m.delivered_of_kept hk).exists_pull hdevice hpull,
    fun _ _ _ _ _ _ _ h => m.move_before_copy rfl h,
    ⟨hsampling.1, hsampling.2.1, hsampling.2.2, fun hs => ?_⟩,
    fun inv given files h => ⟨h.run_eq m.host m.state, fun b => h.run_eq _ _⟩⟩
  obtain ⟨back, hback⟩ := m.run_withSampling_of_started hs
  exact ⟨back, fun b => (hback b).1⟩

end Recording

/-- A recording through the bridge that keeps its record, copies it and says both. -/
theorem run_reports_copy :
    (copiedRecording (.exited {})).Kept ∧ (copiedRecording (.exited {})).Pulled ∧
      (copiedRecording (.exited {})).run.result = .ok 0 ∧
      printed (copiedRecording (.exited {})).run.events =
        ["Wrote record -> /data/a.data", "Pulled record -> run.data"] ∧
      ∃ limit outcome, pull {} "/data/a.data" (HostPath.ofText "run.data") limit outcome ∈
        (copiedRecording (.exited {})).run.events := by
  have hresult : (copiedRecording (.exited {})).run.result = .ok 0 := by decide +kernel
  obtain ⟨hsuccess, -, -, hsays, hcopies, -⟩ := (copiedRecording (.exited {})).run_reports
  obtain ⟨hkept, hpulled⟩ := hsuccess.1 hresult
  have hcopied := hpulled (Option.some_ne_none _)
  obtain ⟨path, hpath, hprinted⟩ := hsays hkept hcopied
  obtain rfl := Option.some.inj hpath
  refine ⟨hkept, hcopied, hresult, hprinted, ?_⟩
  rcases hcopies hkept {} _ rfl rfl with hmem | ⟨fault, hfault, -⟩
  · exact hmem
  · rw [hresult] at hfault
    cases hfault

end CommandLine

end DeviceSampling
