/-
# How the end of a session goes

The end of a session has many exits: the sampler does not run, it is not told to end, it does not
end in time, the directory of the destination is not made, the record is not moved.  On a reliable
device each of them is told by the answers alone, and what is done up to it is told in full.

* `Quiet`, `Refused`: what answers mean to a command that has to work and to an interrupt;
* `Stopped`, `Moved`, `Collected`: a stop, the moving of a record, and both, exit by exit;
* `stopSampler_stopped`: a stop on a reliable device;
* `stopCollecting_collected`: **the end of a session on a reliable device.**
-/
import DeviceSampling.Proofs.CheckPolls
import DeviceSampling.Proofs.CommandSafety

namespace DeviceSampling
namespace Session

open Dialog

variable {config : SamplerConfig}

/-! ## 1. Answers -/

/-- **A quiet answer:** the command ran, succeeded and printed blanks at most. -/
def Quiet (answer : Except Fault ShellResult) : Prop :=
  ∃ r, answer = .ok r ∧ r.code = 0 ∧ Text.AllBlank r.output.toList ∧ Text.AllBlank r.errors.toList

/-- **A refused interrupt:** it did not reach the device, or it failed and said why.  A failure
without a word is no refusal, because the sampler may have ended by itself. -/
def Refused (answer : Except Fault ShellResult) : Prop :=
  (∃ f, answer = .error f) ∨
    ∃ r, answer = .ok r ∧ r.code ≠ 0 ∧ ¬ Text.AllBlank r.errors.toList

/-- A command that has to do its work succeeds on a foreseen answer if the answer is quiet. -/
theorem commandEnd_of_foreseen {a : Except Fault ShellResult} (h : Foreseen a) :
    ∃ b, commandEnd a = .ok b ∧ (b = true ↔ Quiet a) := by
  match a with
  | .error f =>
    obtain ⟨message, rfl⟩ := h f rfl
    refine ⟨false, rfl, iff_of_false Bool.false_ne_true ?_⟩
    rintro ⟨r, hr, -⟩
    cases hr
  | .ok r =>
    refine ⟨wentQuietly r, rfl, fun hq => ?_, ?_⟩
    · exact quiet_of_commandEnd (c := ⟨.move, "", none⟩) (congrArg Except.ok hq)
    · rintro ⟨r', hr, hcode, hout, herr⟩
      cases hr
      have hprinted : Text.isBlankText r.printed = true := by
        unfold Text.isBlankText ShellResult.printed
        rw [String.toList_append, List.all_append, Bool.and_eq_true]
        exact ⟨List.all_eq_true.2 hout, List.all_eq_true.2 herr⟩
      unfold wentQuietly
      rw [hprinted, Bool.and_true]
      exact decide_eq_true hcode

/-- An interrupt ends the stop if it was refused, and else the stop goes on. -/
theorem interruptEnd_of_foreseen {b : Except Fault ShellResult} (h : Foreseen b) :
    (Refused b ∧ interruptEnd? b = some (.ok false)) ∨ (¬ Refused b ∧ interruptEnd? b = none) := by
  match b with
  | .error f =>
    obtain ⟨message, rfl⟩ := h f rfl
    exact Or.inl ⟨Or.inl ⟨_, rfl⟩, rfl⟩
  | .ok r =>
    have hcode : r.ok = true ↔ r.code = 0 := decide_eq_true_iff
    have hblank : Text.isBlankText r.errors = true ↔ Text.AllBlank r.errors.toList :=
      List.all_eq_true
    have hends : (!r.ok && !Text.isBlankText r.errors) = true ↔
        r.code ≠ 0 ∧ ¬ Text.AllBlank r.errors.toList := by
      rw [Bool.and_eq_true, Bool.not_eq_true', Bool.not_eq_true', ← Bool.not_eq_true,
        ← Bool.not_eq_true, hcode, hblank]
    by_cases hr : r.code ≠ 0 ∧ ¬ Text.AllBlank r.errors.toList
    · exact Or.inl ⟨Or.inr ⟨r, rfl, hr⟩, if_pos (hends.2 hr)⟩
    · refine Or.inr ⟨?_, if_neg (mt hends.1 hr)⟩
      rintro (⟨f, hf⟩ | ⟨r', hr', hrest⟩)
      · cases hf
      · cases hr'
        exact hr hrest

/-! ## 2. Stopping -/

/-- **How a stop goes,** with its deeds and whether it succeeds: a check (`pidof` with the name of the
sampler), an interrupt (`pkill -INT` with that name), and a poll for the first check that is not
positive.  What is not mentioned is not done. -/
inductive Stopped (config : SamplerConfig) : List Deed → Bool → Prop
  /-- The sampler does not run. -/
  | notRunning {a} : ¬ Positive a → Stopped config [check config a] false
  /-- The sampler is not told to end. -/
  | refused {a b} : Positive a → Refused b →
      Stopped config [check config a, interrupt config b] false
  /-- The sampler is waited for, and ends or does not. -/
  | waited {a b answers ended} : Positive a → ¬ Refused b →
      PollEnds (¬ Positive ·) config.stopWait.maxRetries answers ended →
      Stopped config
        (check config a :: interrupt config b :: polled config config.stopWait.delay answers) ended

theorem stopped_of_stops {es : List Deed} {r : Except Fault Bool} (h : Stops config es r)
    (hes : Undisturbed es) : ∃ b, r = .ok b ∧ Stopped config es b := by
  cases h with
  | @notRunning a r ha hr =>
    obtain ⟨b, hb, hp⟩ := checkEnd_of_foreseen hes.head
    rw [hb] at ha
    subst ha
    cases b with
    | true => exact absurd rfl hr
    | false => exact ⟨false, rfl, .notRunning fun h => Bool.false_ne_true (hp.2 h)⟩
  | @notTold a b r ha hb =>
    have hpos := positive_of_checkEnd ha
    rcases interruptEnd_of_foreseen hes.tail.head with ⟨href, hend⟩ | ⟨-, hend⟩
    · rw [hend] at hb
      exact ⟨false, (Option.some.inj hb).symm, .refused hpos href⟩
    · rw [hend] at hb
      cases hb
  | @awaited a b es r ha hb hpoll =>
    have hpos := positive_of_checkEnd ha
    rcases interruptEnd_of_foreseen hes.tail.head with ⟨-, hend⟩ | ⟨href, -⟩
    · rw [hend] at hb
      cases hb
    · obtain ⟨answers, ended, rfl, rfl, hends⟩ := exists_polled hpoll hes.tail.tail
      rw [awaited_false] at hends
      exact ⟨ended, rfl, .waited hpos href hends⟩

/-- **A stop on a reliable device** has a result, and goes in one of these ways. -/
theorem stopSampler_stopped {σ : Type} {w : World ShellCall ShellAnswer σ} (hw : Reliable w)
    (world : σ) (config : SamplerConfig) :
    ∃ b, ((stopSampler config).run w world).result = .ok b ∧
      Stopped config (deeds ((stopSampler config).run w world).events) b :=
  stopped_of_stops (stopSampler_mayGo (run_mayGo w (stopSampler config) world))
    (hw.undisturbed (stopSampler config) world)

/-! ## 3. Moving the record -/

/-- **How a record is moved,** with the deeds and whether it succeeds: the directory of the
destination is made first if one is named (`mkdir -p`), and the move (`mv`) is tried unless that went
wrong. -/
inductive Moved (config : SamplerConfig) (destination : String) : List Deed → Bool → Prop
  /-- No directory is named. -/
  | directly {m b} : Shell.directory destination = "" → (b = true ↔ Quiet m) →
      Moved config destination [move config destination m] b
  /-- The directory is not made. -/
  | notMade {d} : Shell.directory destination ≠ "" → ¬ Quiet d →
      Moved config destination [makeDirectory destination d] false
  /-- The directory is made. -/
  | made {d m b} : Shell.directory destination ≠ "" → Quiet d → (b = true ↔ Quiet m) →
      Moved config destination [makeDirectory destination d, move config destination m] b

theorem moved_of_moves {destination : String} {es : List Deed} {r : Except Fault Bool}
    (h : Moves config destination es r) (hes : Undisturbed es) :
    ∃ b, r = .ok b ∧ Moved config destination es b := by
  have hempty : (Shell.directory destination).isEmpty = true ↔ Shell.directory destination = "" :=
    String.isEmpty_iff
  have hnamed : (Shell.directory destination).isEmpty = false → Shell.directory destination ≠ "" := by
    intro hd h
    rw [hempty.2 h] at hd
    cases hd
  cases h with
  | @directly m hd =>
    obtain ⟨b, hb, hq⟩ := commandEnd_of_foreseen hes.head
    exact ⟨b, hb, .directly (hempty.1 hd) hq⟩
  | @notMade d r hd ha hr =>
    obtain ⟨b, hb, hq⟩ := commandEnd_of_foreseen hes.head
    rw [hb] at ha
    subst ha
    cases b with
    | true => exact absurd rfl hr
    | false => exact ⟨false, rfl, .notMade (hnamed hd) fun h => Bool.false_ne_true (hq.2 h)⟩
  | @made d m hd ha =>
    obtain ⟨b, hb, hq⟩ := commandEnd_of_foreseen hes.tail.head
    exact ⟨b, hb, .made (hnamed hd) (quiet_of_commandEnd (c := ⟨.makeDirectory, "", none⟩) ha) hq⟩

/-! ## 4. The end of a session -/

/-- **How the end of a session goes,** with its deeds and whether it succeeds: the record is moved
after a stop that succeeded, and after no other. -/
inductive Collected (config : SamplerConfig) (destination : String) : List Deed → Bool → Prop
  | notStopped {es} : Stopped config es false → Collected config destination es false
  | stopped {es moves b} : Stopped config es true → Moved config destination moves b →
      Collected config destination (es ++ moves) b

theorem collected_of_collects {destination : String} {es : List Deed} {r : Except Fault Bool}
    (h : Collects config destination es r) (hes : Undisturbed es) :
    ∃ b, r = .ok b ∧ Collected config destination es b := by
  cases h with
  | notStopped hs hr =>
    obtain ⟨b, rfl, hstop⟩ := stopped_of_stops hs hes
    cases b with
    | true => exact absurd rfl hr
    | false => exact ⟨false, rfl, .notStopped hstop⟩
  | stopped hs hm =>
    obtain ⟨b, hb, hstop⟩ := stopped_of_stops hs hes.left
    obtain rfl := Except.ok.inj hb
    obtain ⟨b, rfl, hmove⟩ := moved_of_moves hm hes.right
    exact ⟨b, rfl, .stopped hstop hmove⟩

/-- **The end of a session on a reliable device** has a result, and goes in one of these ways. -/
theorem stopCollecting_collected {σ : Type} {w : World ShellCall ShellAnswer σ} (hw : Reliable w)
    (world : σ) (config : SamplerConfig) (destination : String) :
    ∃ b, ((stopCollecting config destination).run w world).result = .ok b ∧
      Collected config destination
        (deeds ((stopCollecting config destination).run w world).events) b :=
  collected_of_collects (stopCollecting_mayGo (run_mayGo w (stopCollecting config destination) world))
    (hw.undisturbed (stopCollecting config destination) world)

/-- A device whose sampler is seen to run as many times as its state says. -/
def lingeringDevice : World ShellCall ShellAnswer Nat where
  call c left :=
    match c.purpose with
    | .runningCheck => (.ok (if 0 < left then { output := "7 12\n" } else { code := 1 }), left - 1)
    | _ => (.ok {}, left)
  spawn _ left := ((true, .ok {}), left)
  sleep _ left := (false, left)

theorem reliable_lingeringDevice : Reliable lingeringDevice := by
  refine ⟨fun c left f h => ?_, fun _ _ => rfl⟩
  simp only [lingeringDevice] at h
  split at h
  · cases h
  · cases h

/-- The sampler is seen twice more after its interrupt, and then the record is moved. -/
theorem stopCollecting_collected_lingeringDevice :
    Reliable lingeringDevice ∧
      ((stopCollecting {} "/out/perf.data").run lingeringDevice 3).result = .ok true ∧
      Collected {} "/out/perf.data"
        (deeds ((stopCollecting {} "/out/perf.data").run lingeringDevice 3).events) true ∧
      sleeps ((stopCollecting {} "/out/perf.data").run lingeringDevice 3).events =
        [.ofNat 5, .ofNat 5] := by
  have hrun : ((stopCollecting {} "/out/perf.data").run lingeringDevice 3).result = .ok true := by
    decide +kernel
  obtain ⟨b, hb, hc⟩ :=
    stopCollecting_collected reliable_lingeringDevice 3 {} "/out/perf.data"
  rw [hrun] at hb
  obtain rfl := Except.ok.inj hb
  exact ⟨reliable_lingeringDevice, hrun, hc, by decide +kernel⟩

end Session
end DeviceSampling
