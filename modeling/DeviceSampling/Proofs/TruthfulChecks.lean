/-
# What a running check says of the sampler

A session sees its sampler through running checks only.  Here the device has a sampler that runs or
not in each state, unseen by the session, and may change at any deed.  A check tells the truth or
fails, and a check that fails counts as one that saw nothing, wherever it is made.  So a stop may
report success while the sampler runs, and a start may give up though no sampler runs.

* `Truthful`, `FailedCheck`, `Missed`: answers to a check that tell the truth, or say nothing;
* `Candid`, `Honest`: devices whose checks tell the truth or fail, and devices that never fail;
* `LastCheck`: the last check among some deeds, with the moment at which it was made;
* `SawNone`, `SawOne`, `EndedBetween`: what the last checks say of the sampler;
* `stopSampler_endedOrMissed`: **what the success of a stop says of the sampler**;
* `startCollecting_gaveUp`: **why a start launches nothing.**
-/
import DeviceSampling.Proofs.Moments
import DeviceSampling.Proofs.Starting

namespace DeviceSampling
namespace Session

open Dialog

variable {config : SamplerConfig} {σ : Type} {w : World ShellCall ShellAnswer σ}
variable {runs : σ → Prop}

/-! ## 1. Answers to a check -/

/-- The command succeeded and printed groups of digits, whatever it wrote beside them. -/
def ShowsIds (answer : Except Fault ShellResult) : Prop :=
  ∃ r, answer = .ok r ∧ r.code = 0 ∧ IdGroups (Text.trim r.output.toList)

/-- **A truthful answer:** the command ran, and shows ids exactly if the sampler runs. -/
def Truthful (running : Prop) (answer : Except Fault ShellResult) : Prop :=
  (∃ r, answer = .ok r) ∧ (ShowsIds answer ↔ running)

/-- **A failed check:** it did not reach the device, or it failed with a message. -/
inductive FailedCheck : Except Fault ShellResult → Prop
  | unreached (message : String) : FailedCheck (.error (.unreachable message))
  | refused {r : ShellResult} : r.code ≠ 0 → ¬ Text.AllBlank r.errors.toList → FailedCheck (.ok r)

/-- **A missed check:** it did not reach the device, or it wrote an error. -/
inductive Missed : Except Fault ShellResult → Prop
  | unreached (message : String) : Missed (.error (.unreachable message))
  | complained {r : ShellResult} : ¬ Text.AllBlank r.errors.toList → Missed (.ok r)

section Answers

variable {a : Except Fault ShellResult} {running : Prop}

theorem FailedCheck.missed (h : FailedCheck a) : Missed a := by
  cases h with
  | unreached message => exact .unreached message
  | refused _ herr => exact .complained herr

theorem FailedCheck.not_positive (h : FailedCheck a) : ¬ Positive a := by
  rintro ⟨r, rfl, hcode, -⟩
  cases h with
  | refused hne => exact hne hcode

/-- A positive answer shows ids. -/
theorem showsIds_of_positive (h : Positive a) : ShowsIds a := by
  obtain ⟨r, hr, hcode, -, hids⟩ := h
  exact ⟨r, hr, hcode, hids⟩

/-- What counts as a running sampler shows ids. -/
theorem showsIds_of_showsRunning {r : ShellResult} (h : r.showsRunning = true) : ShowsIds (.ok r) :=
  showsIds_of_positive (showsRunning_iff.1 h)

/-- A command that failed shows no ids. -/
theorem not_showsIds_of_code {r : ShellResult} (h : r.code ≠ 0) : ¬ ShowsIds (.ok r) := by
  rintro ⟨r', hr, hcode, -⟩
  cases hr
  exact h hcode

/-- **What a positive check saw was there.** -/
theorem running_of_positive (h : Truthful running a ∨ FailedCheck a) (hp : Positive a) : running := by
  rcases h with h | h
  · exact h.2.1 (showsIds_of_positive hp)
  · exact absurd hp h.not_positive

/-- **A check that saw nothing while the sampler ran was missed.** -/
theorem missed_of_not_positive (h : Truthful running a ∨ FailedCheck a) (hp : ¬ Positive a)
    (hrun : running) : Missed a := by
  rcases h with h | h
  · obtain ⟨r, rfl, hcode, hids⟩ := h.2.2 hrun
    -- ids were shown, so only an error can have made the check negative
    exact .complained fun herr => hp ⟨r, rfl, hcode, herr, hids⟩
  · exact h.missed

end Answers

/-! ## 2. Devices with a sampler -/

/-- **A candid device:** every running check tells the truth about the sampler or fails.  All else
is left open: other answers, sleeps, and when the sampler starts or ends. -/
structure Candid (w : World ShellCall ShellAnswer σ) (runs : σ → Prop) (config : SamplerConfig) :
    Prop where
  checks : ∀ s, Truthful (runs s) (checkIn w s config).1 ∨ FailedCheck (checkIn w s config).1

/-- **An honest device:** every running check tells the truth, and an interrupt succeeds.  The sampler
may start or end at any deed. -/
structure Honest (w : World ShellCall ShellAnswer σ) (runs : σ → Prop) (config : SamplerConfig) :
    Prop where
  checks : ∀ s, Truthful (runs s) (checkIn w s config).1
  interrupts : ∀ s, ∃ r, (w.call ⟨.interrupt, config.interruptCommand, none⟩ s).1 = .ok r ∧ r.code = 0

/-! ## 3. The last check -/

/-- **The last running check** among some deeds, with its answer and the world in its moment. -/
inductive LastCheck (w : World ShellCall ShellAnswer σ) (world : σ) (config : SamplerConfig) :
    List Deed → Except Fault ShellResult → σ → Prop
  | after {before rest a} : (∀ b, check config b ∉ rest) →
      LastCheck w world config (before ++ check config a :: rest) a (w.after world before)

/-- **The last running check saw no sampler,** and was right in that or missed it. -/
def SawNone (w : World ShellCall ShellAnswer σ) (world : σ) (runs : σ → Prop)
    (config : SamplerConfig) (es : List Deed) : Prop :=
  ∃ a moment, LastCheck w world config es a moment ∧ (checkIn w moment config).1 = a ∧
    ¬ Positive a ∧ (runs moment → Missed a)

/-- A check in a run was answered by the world in its moment. -/
theorem checkIn_of_plays {world : σ} {before rest : List Deed} {a : Except Fault ShellResult}
    (h : w.Plays world (before ++ check config a :: rest)) :
    (checkIn w (w.after world before) config).1 = a := h.answer_eq

/-- Deeds with a negative check, and none after it, saw no sampler. -/
theorem Candid.sawNone (hw : Candid w runs config) {world : σ} {before rest : List Deed}
    {a : Except Fault ShellResult} (hplays : w.Plays world (before ++ check config a :: rest))
    (hneg : ¬ Positive a) (hrest : ∀ b, check config b ∉ rest) :
    SawNone w world runs config (before ++ check config a :: rest) := by
  have ha := checkIn_of_plays hplays
  refine ⟨a, w.after world before, .after hrest, ha, hneg, fun hrun => ?_⟩
  have hcheck := hw.checks (w.after world before)
  rw [ha] at hcheck
  exact missed_of_not_positive hcheck hneg hrun

/-! ## 4. Stops -/

/-- **A poll that ends as a poll should** ends with a check, which is positive or not as its result
says. -/
theorem exists_last_of_poll {goal b : Bool} {delay : Binary64} {left : Nat} {es : List Deed}
    {r : Except Fault Bool} (h : PollGoes (CheckRound config goal) delay left es r)
    (hr : r = .ok b) : ∃ front a, es = front ++ [check config a] ∧ checkEnd a = .ok (b == goal) := by
  induction h with
  | met h =>
    obtain ⟨a, rfl, ha⟩ := checkRound_ok h
    exact ⟨[], a, rfl, by rw [ha, Except.ok.inj hr]⟩
  | spent h =>
    obtain ⟨a, rfl, ha⟩ := checkRound_ok h
    exact ⟨[], a, rfl, by rw [ha, Except.ok.inj hr]⟩
  | @again left es rest r h _ ih =>
    obtain ⟨front, a, rfl, ha⟩ := ih hr
    exact ⟨es ++ .slept delay false :: front, a, by simp, ha⟩
  | interrupted h => cases hr
  | failed h => cases hr

/-- A stop that succeeds ends with a negative check. -/
theorem exists_last_of_stops {es : List Deed} (h : Stops config es (.ok true)) :
    ∃ front a, es = front ++ [check config a] ∧ ¬ Positive a := by
  cases h with
  | notRunning _ hr => exact absurd rfl hr
  | @notTold a b _ _ hb =>
    -- an interrupt that ends the stop never ends it well
    match b with
    | .error f => cases f <;> cases hb
    | .ok r =>
      simp only [interruptEnd?] at hb
      split at hb <;> cases hb
  | @awaited a b polled _ _ _ hpoll =>
    obtain ⟨front, c, rfl, hc⟩ := exists_last_of_poll hpoll rfl
    refine ⟨check config a :: interrupt config b :: front, c, rfl, not_positive_of_checkEnd ?_⟩
    rw [hc]
    intro h
    cases h

/-- The event is a move. -/
def IsMove (e : Deed) : Prop := ∃ c a, e = .called c a ∧ c.purpose = .move

/-- A poll moves nothing. -/
theorem not_isMove_of_poll {goal : Bool} {delay : Binary64} {left : Nat} {es : List Deed}
    {r : Except Fault Bool} (h : PollGoes (CheckRound config goal) delay left es r) :
    ∀ e ∈ es, ¬ IsMove e := by
  rintro e he ⟨c, a, rfl, hc⟩
  have hmem : (⟨c, a⟩ : Issued) ∈ commands es := List.mem_filterMap.2 ⟨_, he, rfl⟩
  have hcheck : c = ⟨.runningCheck, config.runningCommand, none⟩ := isCheck_of_pollGoes h _ hmem
  rw [hcheck] at hc
  cases hc

/-- A check moves nothing, and neither does an interrupt. -/
theorem not_isMove_of_issued {purpose : Purpose} {command : String}
    {a : Except Fault ShellResult} (h : purpose ≠ .move) : ¬ IsMove (issued purpose command a) := by
  rintro ⟨c, b, he, hc⟩
  obtain ⟨rfl, -⟩ := Event.called.inj he
  exact h hc

/-- A stop moves nothing. -/
theorem not_isMove_of_stops {es : List Deed} {r : Except Fault Bool} (h : Stops config es r) :
    ∀ e ∈ es, ¬ IsMove e := by
  have hcheck : ∀ a, ¬ IsMove (check config a) := fun a => not_isMove_of_issued (by decide)
  have hinterrupt : ∀ b, ¬ IsMove (interrupt config b) := fun b => not_isMove_of_issued (by decide)
  cases h with
  | notRunning => simpa using hcheck _
  | notTold => simpa using ⟨hcheck _, hinterrupt _⟩
  | awaited _ _ hpoll => simpa using ⟨hcheck _, hinterrupt _, not_isMove_of_poll hpoll⟩

/-- Moving a record checks nothing. -/
theorem check_not_mem_of_moves {destination : String} {es : List Deed} {r : Except Fault Bool}
    (h : Moves config destination es r) (b : Except Fault ShellResult) : check config b ∉ es := by
  have hissued : ∀ {purpose : Purpose} {command : String} {a : Except Fault ShellResult},
      purpose ≠ .runningCheck → check config b ≠ issued purpose command a := by
    intro purpose command a hne he
    exact hne (congrArg ShellCall.purpose (Event.called.inj he).1).symm
  have hmove : ∀ a, check config b ≠ move config destination a := fun a => hissued (by decide)
  have hmake : ∀ a, check config b ≠ makeDirectory destination a := fun a => hissued (by decide)
  cases h with
  | directly => simpa using hmove _
  | notMade => simpa using hmake _
  | made => simpa using ⟨hmake _, hmove _⟩

/-- **A move stands after a stop that succeeded,** with no check between them. -/
theorem stop_before_move {destination : String} {es before rest : List Deed} {m : Deed}
    {r : Except Fault Bool} (h : Collects config destination es r) (he : es = before ++ m :: rest)
    (hm : IsMove m) :
    ∃ stop tail, before = stop ++ tail ∧ Stops config stop (.ok true) ∧
      ∀ b, check config b ∉ tail := by
  cases h with
  | notStopped hs _ =>
    subst he
    exact absurd hm (not_isMove_of_stops hs m (List.mem_append_right _ List.mem_cons_self))
  | @stopped stop moves _ hs hmoves =>
    rcases List.append_eq_append_iff.1 he with ⟨tail, hb, hrest⟩ | ⟨tail, hb, hrest⟩
    · refine ⟨stop, tail, hb, hs, fun b hmem => check_not_mem_of_moves hmoves b ?_⟩
      rw [hrest]
      exact List.mem_append_left _ hmem
    · cases tail with
      | nil =>
        rw [List.append_nil] at hb
        exact ⟨stop, [], by rw [hb, List.append_nil], hs, fun b => List.not_mem_nil⟩
      | cons e tail =>
        obtain ⟨rfl, -⟩ := List.cons.inj hrest
        have hmem : m ∈ stop := hb ▸ List.mem_append_right _ List.mem_cons_self
        exact absurd hm (not_isMove_of_stops hs m hmem)

/-- A stop that succeeded saw no sampler, and nothing after it that checks nothing changes that. -/
theorem Candid.sawNone_of_stops (hw : Candid w runs config) {world : σ} {stop tail : List Deed}
    (h : Stops config stop (.ok true)) (hplays : w.Plays world (stop ++ tail))
    (htail : ∀ b, check config b ∉ tail) : SawNone w world runs config (stop ++ tail) := by
  obtain ⟨front, a, rfl, ha⟩ := exists_last_of_stops h
  rw [List.append_assoc, List.singleton_append] at hplays ⊢
  exact hw.sawNone hplays ha htail

/-- **What the success of a stop says.**  The last running check of a stop that succeeded saw no
sampler: at its moment none ran, or the check was missed.  A record is moved only after such a
stop, with no check between them. -/
theorem stopSampler_endedOrMissed (hw : Candid w runs config) (world : σ) :
    (((stopSampler config).run w world).result = .ok true →
      SawNone w world runs config (deeds ((stopSampler config).run w world).events)) ∧
    ∀ destination before m rest,
      deeds ((stopCollecting config destination).run w world).events = before ++ m :: rest →
      IsMove m → SawNone w world runs config before := by
  constructor
  · intro hr
    have hgo := run_mayGo w (stopSampler config) world
    rw [hr] at hgo
    have hplays := (run_plays w (stopSampler config) world).1
    rw [← List.append_nil (deeds _)] at hplays ⊢
    exact hw.sawNone_of_stops (stopSampler_mayGo hgo) hplays fun b => List.not_mem_nil
  · intro destination before m rest he hm
    have hgo := run_mayGo w (stopCollecting config destination) world
    have hplays := (run_plays w (stopCollecting config destination) world).1
    obtain ⟨stop, tail, rfl, hs, htail⟩ := stop_before_move (stopCollecting_mayGo hgo) he hm
    rw [he] at hplays
    exact hw.sawNone_of_stops hs (World.plays_append.1 hplays).1 htail

/-- The sampler runs as long as the number says, which every check and every interrupt lowers; the
second last of its checks does not reach the device. -/
def unsteadyDevice : World ShellCall ShellAnswer Nat where
  call c left :=
    match c.purpose with
    | .runningCheck =>
      (if left = 0 then .ok { code := 1 }
        else if left = 2 then .error (.unreachable "device offline")
        else .ok { output := "680\n" }, left - 1)
    | .interrupt => (.ok {}, left - 1)
    | _ => (.ok {}, left)
  spawn _ left := ((true, .ok {}), left)
  sleep _ left := (false, left)

theorem candid_unsteadyDevice : Candid unsteadyDevice (0 < ·) {} := by
  have hids : ShowsIds (.ok { output := "680\n" }) := showsIds_of_showsRunning (by decide +kernel)
  have hnone : ¬ ShowsIds (.ok { code := 1 }) := not_showsIds_of_code (by decide)
  refine ⟨fun left => ?_⟩
  simp only [checkIn, unsteadyDevice]
  by_cases h0 : left = 0
  · subst h0
    exact Or.inl ⟨⟨_, rfl⟩, iff_of_false hnone (Nat.lt_irrefl 0)⟩
  · by_cases h2 : left = 2
    · rw [if_neg h0, if_pos h2]
      exact Or.inr (.unreached _)
    · rw [if_neg h0, if_neg h2]
      exact Or.inl ⟨⟨_, rfl⟩, iff_of_true hids (Nat.pos_of_ne_zero h0)⟩

/-- The sampler outlasts its interrupt by one check, has ended by the next, and then its record is
moved. -/
theorem stopSampler_endedOrMissed_unsteadyDevice :
    Candid unsteadyDevice (0 < ·) {} ∧
      ((stopSampler {}).run unsteadyDevice 3).result = .ok true ∧
      SawNone unsteadyDevice 3 (0 < ·) {} (deeds ((stopSampler {}).run unsteadyDevice 3).events) ∧
      ∃ before m, deeds ((stopCollecting {} "perf.data").run unsteadyDevice 3).events =
        before ++ m :: [] ∧ IsMove m ∧ SawNone unsteadyDevice 3 (0 < ·) {} before := by
  have hresult : ((stopSampler {}).run unsteadyDevice 3).result = .ok true := by decide +kernel
  have hmoved : deeds ((stopCollecting {} "perf.data").run unsteadyDevice 3).events =
      deeds ((stopSampler {}).run unsteadyDevice 3).events ++ move {} "perf.data" (.ok {}) :: [] := by
    with_unfolding_all rfl
  have hmove : IsMove (move {} "perf.data" (.ok {})) := ⟨_, _, rfl, rfl⟩
  obtain ⟨hstop, hcollect⟩ := stopSampler_endedOrMissed candid_unsteadyDevice 3
  exact ⟨candid_unsteadyDevice, hresult, hstop hresult, _, _, hmoved, hmove,
    hcollect _ _ _ _ hmoved hmove⟩

/-- **A stop may succeed while the sampler runs,** and the record be moved from under it: the check
after the interrupt does not reach the device. -/
theorem stopSampler_missesSampler :
    Candid unsteadyDevice (0 < ·) {} ∧
      ((stopSampler {}).run unsteadyDevice 4).result = .ok true ∧
      (∃ a moment, LastCheck unsteadyDevice 4 {}
        (deeds ((stopSampler {}).run unsteadyDevice 4).events) a moment ∧ 0 < moment) ∧
      ∃ before m rest, deeds ((stopCollecting {} "perf.data").run unsteadyDevice 4).events =
        before ++ m :: rest ∧ IsMove m ∧ 0 < unsteadyDevice.after 4 before := by
  have hstop : deeds ((stopSampler {}).run unsteadyDevice 4).events =
      [check {} (.ok { output := "680\n" }), interrupt {} (.ok {})] ++
        check {} (.error (.unreachable "device offline")) :: [] := by
    with_unfolding_all rfl
  refine ⟨candid_unsteadyDevice, by decide +kernel,
    ⟨.error (.unreachable "device offline"), 2, ?_, Nat.zero_lt_two⟩, ?_⟩
  · rw [hstop]
    exact .after fun b => List.not_mem_nil
  · refine ⟨deeds ((stopSampler {}).run unsteadyDevice 4).events, move {} "perf.data" (.ok {}), [],
      ?_, ⟨_, _, rfl, rfl⟩, ?_⟩
    · with_unfolding_all rfl
    · rw [hstop]
      exact Nat.zero_lt_one

/-! ## 5. Starts -/

/-- **How a stop fails on an honest device:** there is no sampler to stop, or the last check still
sees it. -/
theorem Honest.stop_failed (hw : Honest w runs config) {world : σ} {es : List Deed}
    (h : Stops config es (.ok false)) (hplays : w.Plays world es) :
    (∃ a, es = [check config a] ∧ ¬ Positive a) ∨
      ∃ front a, es = front ++ [check config a] ∧ Positive a := by
  cases h with
  | @notRunning a _ ha _ =>
    refine Or.inl ⟨a, rfl, not_positive_of_checkEnd ?_⟩
    rw [ha]
    intro h
    cases h
  | @notTold a b _ _ hb =>
    obtain ⟨r, hr, hcode⟩ := hw.interrupts (w.after world [check config a])
    obtain rfl : .ok r = b := hr.symm.trans (hplays.2.1)
    have hok : r.ok = true := decide_eq_true hcode
    simp [interruptEnd?, hok] at hb
  | @awaited a b polled _ _ _ hpoll =>
    obtain ⟨front, c, rfl, hc⟩ := exists_last_of_poll hpoll rfl
    exact Or.inr ⟨check config a :: interrupt config b :: front, c, rfl, positive_of_checkEnd hc⟩

/-- **The last running check saw the sampler,** which ran then. -/
def SawOne (w : World ShellCall ShellAnswer σ) (world : σ) (runs : σ → Prop)
    (config : SamplerConfig) (es : List Deed) : Prop :=
  ∃ a moment, LastCheck w world config es a moment ∧ Positive a ∧ runs moment

/-- **The sampler ended between two checks:** the first saw it, the second did not. -/
def EndedBetween (w : World ShellCall ShellAnswer σ) (world : σ) (runs : σ → Prop)
    (config : SamplerConfig) (es : List Deed) : Prop :=
  ∃ a b, es = [check config a, check config b] ∧ Positive a ∧ runs world ∧ ¬ Positive b ∧
    (runs (w.after world [check config a]) → Missed b)

/-- A launch is issued among the deeds of its start. -/
theorem starts_ne_nil_of_started {subcommand arguments : String} {timeout : Binary64} {held : Bool}
    {answer : Except Fault ShellResult} {es polled : List Deed} :
    starts config subcommand arguments
      (commands (es ++ started config subcommand arguments timeout held answer :: polled)) ≠ [] := by
  intro h
  have hmem : (⟨⟨.start, config.startCommand subcommand arguments, some timeout⟩, answer⟩ : Issued) ∈
      starts config subcommand arguments
        (commands (es ++ started config subcommand arguments timeout held answer :: polled)) := by
    rw [commands_append, starts_append]
    exact List.mem_append_right _ (List.mem_filter.2 ⟨List.mem_cons_self, rfl⟩)
  rw [h] at hmem
  cases hmem

/-- **Why clearing the way fails** on an honest device. -/
theorem Honest.clear_failed (hw : Honest w runs config) {world : σ} {es : List Deed}
    (h : Clears config es (.ok false)) (hplays : w.Plays world es) :
    SawOne w world runs config es ∨ EndedBetween w world runs config es := by
  cases h with
  | @stopped a stop _ ha hs =>
    rcases hw.stop_failed hs hplays.2 with ⟨b, rfl, hb⟩ | ⟨front, b, rfl, hb⟩
    · right
      have hfirst : Truthful (runs world) a := hplays.1 ▸ hw.checks world
      have hanswer : (checkIn w (w.after world [check config a]) config).1 = b := hplays.2.1
      have hsecond := hw.checks (w.after world [check config a])
      rw [hanswer] at hsecond
      have hpos := positive_of_checkEnd ha
      exact ⟨a, b, rfl, hpos, running_of_positive (Or.inl hfirst) hpos, hb,
        missed_of_not_positive (Or.inl hsecond) hb⟩
    · left
      have hanswer : (checkIn w (w.after world (check config a :: front)) config).1 = b :=
        checkIn_of_plays hplays
      have htruth := hw.checks (w.after world (check config a :: front))
      rw [hanswer] at htruth
      have hlast : LastCheck w world config (check config a :: front ++ check config b :: []) b
          (w.after world (check config a :: front)) := .after fun c => List.not_mem_nil
      exact ⟨b, _, hlast, hb, running_of_positive (Or.inl htruth) hb⟩

/-- **A sampler that ends between the first two checks** makes clearing the way fail. -/
theorem Honest.clear_failed_of_ended (hw : Honest w runs config) {world : σ} {es : List Deed}
    {r : Except Fault Bool} (h : Clears config es r) (hplays : w.Plays world es)
    (hfirst : Positive (checkIn w world config).1)
    (hsecond : ¬ Positive (checkIn w (checkIn w world config).2 config).1) :
    r = .ok false ∧ EndedBetween w world runs config es := by
  have hend : ∀ {a : Except Fault ShellResult}, Positive a → checkEnd a = .ok true := by
    intro a hp
    by_contra hne
    exact not_positive_of_checkEnd hne hp
  cases h with
  | free ha =>
    rw [hend (hplays.1 ▸ hfirst)] at ha
    cases ha
  | failed ha =>
    rw [hend (hplays.1 ▸ hfirst)] at ha
    cases ha
  | @stopped a stop _ ha hs =>
    have hpos := positive_of_checkEnd ha
    cases hs with
    | @notRunning b _ hb hr =>
      have hanswer : (checkIn w (checkIn w world config).2 config).1 = b := hplays.2.1
      have htruth := hw.checks (checkIn w world config).2
      rw [hanswer] at hsecond htruth
      obtain ⟨⟨r', rfl⟩, hids⟩ := htruth
      subst hb
      refine ⟨congrArg Except.ok (Bool.eq_false_iff.2 fun h => hr (congrArg Except.ok h)), ?_⟩
      have hran : Truthful (runs world) a := hplays.1 ▸ hw.checks world
      exact ⟨a, .ok r', rfl, hpos, running_of_positive (Or.inl hran) hpos, hsecond,
        missed_of_not_positive (Or.inl ⟨⟨r', rfl⟩, hids⟩) hsecond⟩
    | notTold hb => exact absurd (hplays.2.1 ▸ positive_of_checkEnd hb) hsecond
    | awaited hb => exact absurd (hplays.2.1 ▸ positive_of_checkEnd hb) hsecond

/-- **Why a start launches nothing.**  On an honest device a start that returns without a launch
fails, and either its last check saw the sampler, or the sampler ended between its first two checks:
the stop finds nothing to stop and fails, and so does the start.  The second it always does then. -/
theorem startCollecting_gaveUp (hw : Honest w runs config) (world : σ)
    (subcommand arguments : String) :
    let start := (startCollecting config subcommand arguments).run w world
    (∀ launch b, start.result = .ok (launch, .ok b) →
      starts config subcommand arguments (commands start.events) = [] →
      launch = none ∧ b = false ∧
        (SawOne w world runs config (deeds start.events) ∨
          EndedBetween w world runs config (deeds start.events))) ∧
    (Positive (checkIn w world config).1 →
      ¬ Positive (checkIn w (checkIn w world config).2 config).1 →
      start.result = .ok (none, .ok false) ∧
        EndedBetween w world runs config (deeds start.events)) := by
  intro start
  have hgo := startCollecting_mayGo (run_mayGo w (startCollecting config subcommand arguments) world)
  have hplays := (run_plays w (startCollecting config subcommand arguments) world).1
  change Starts config subcommand arguments (deeds start.events) start.result at hgo
  change w.Plays world (deeds start.events) at hplays
  rw [← commands_deeds]
  generalize deeds start.events = es at hgo hplays ⊢
  generalize start.result = result at hgo ⊢
  constructor
  · rintro launch b rfl hnone
    cases hgo with
    | notCleared hclear hr =>
      obtain rfl : b = false := Bool.eq_false_iff.2 fun h => hr (congrArg Except.ok h)
      exact ⟨rfl, rfl, hw.clear_failed hclear hplays⟩
    | launched => exact absurd hnone starts_ne_nil_of_started
  · intro hfirst hsecond
    cases hgo with
    | notCleared hclear =>
      obtain ⟨rfl, hended⟩ := hw.clear_failed_of_ended hclear hplays hfirst hsecond
      exact ⟨rfl, hended⟩
    | noLimit hclear =>
      obtain ⟨h, -⟩ := hw.clear_failed_of_ended hclear hplays hfirst hsecond
      cases h
    | launched hclear =>
      obtain ⟨h, -⟩ := hw.clear_failed_of_ended hclear (World.plays_append.1 hplays).1 hfirst hsecond
      cases h

theorem honest_lingeringDevice : Honest lingeringDevice (0 < ·) {} := by
  refine ⟨fun left => ?_, fun left => ⟨{}, rfl, rfl⟩⟩
  by_cases h : 0 < left
  · have hids : ShowsIds (.ok { output := "7 12\n" }) :=
      showsIds_of_showsRunning (by decide +kernel)
    simpa [checkIn, lingeringDevice, h, Truthful] using hids
  · have hnone : ¬ ShowsIds (.ok { code := 1 }) := not_showsIds_of_code (by decide)
    simpa [checkIn, lingeringDevice, h, Truthful] using hnone

/-- A sampler that outlives the retries of the stop is seen by the last check. -/
theorem startCollecting_gaveUp_lingeringDevice :
    let start := (startCollecting {} "record" "-a").run lingeringDevice 20
    Honest lingeringDevice (0 < ·) {} ∧ start.result = .ok (none, .ok false) ∧
      starts {} "record" "-a" (commands start.events) = [] ∧
      (SawOne lingeringDevice 20 (0 < ·) {} (deeds start.events) ∨
        EndedBetween lingeringDevice 20 (0 < ·) {} (deeds start.events)) := by
  intro start
  have hresult : start.result = .ok (none, .ok false) := by with_unfolding_all rfl
  have hnone : starts {} "record" "-a" (commands start.events) = [] := by with_unfolding_all rfl
  exact ⟨honest_lingeringDevice, hresult, hnone,
    ((startCollecting_gaveUp honest_lingeringDevice 20 "record" "-a").1 _ _ hresult hnone).2.2⟩

/-- The sampler ends after the first check that sees it. -/
def expiringDevice : World ShellCall ShellAnswer Bool where
  call c running :=
    match c.purpose with
    | .runningCheck => (.ok (if running then { output := "680\n" } else { code := 1 }), false)
    | _ => (.ok {}, running)
  spawn _ _ := ((true, .ok {}), true)
  sleep _ running := (false, running)

theorem honest_expiringDevice : Honest expiringDevice (· = true) {} := by
  refine ⟨fun running => ?_, fun running => ⟨{}, rfl, rfl⟩⟩
  cases running with
  | true =>
    have hids : ShowsIds (.ok { output := "680\n" }) :=
      showsIds_of_showsRunning (by decide +kernel)
    exact ⟨⟨_, rfl⟩, iff_of_true hids rfl⟩
  | false =>
    have hnone : ¬ ShowsIds (.ok { code := 1 }) := not_showsIds_of_code (by decide)
    exact ⟨⟨_, rfl⟩, iff_of_false hnone Bool.false_ne_true⟩

/-- **A start may give up though no sampler runs:** the one that its first check saw has ended by the
second. -/
theorem startCollecting_givesUpAlone :
    let start := (startCollecting {} "record" "-a").run expiringDevice true
    Honest expiringDevice (· = true) {} ∧ start.result = .ok (none, .ok false) ∧
      starts {} "record" "-a" (commands start.events) = [] ∧
      ∃ a moment, LastCheck expiringDevice true {} (deeds start.events) a moment ∧
        ¬ Positive a ∧ moment = false := by
  intro start
  have hdeeds : deeds start.events = [check {} (.ok { output := "680\n" })] ++
      check {} (.ok { code := 1 }) :: [] := by
    with_unfolding_all rfl
  have hneg : ¬ Positive (.ok { code := 1 }) :=
    not_positive_of_checkEnd (by decide +kernel)
  refine ⟨honest_expiringDevice, by with_unfolding_all rfl, by with_unfolding_all rfl,
    .ok { code := 1 }, false, ?_, hneg, rfl⟩
  rw [hdeeds]
  exact .after fun b => List.not_mem_nil

end Session
end DeviceSampling
