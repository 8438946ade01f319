/-
# Polls of a sequence of outcomes

A condition that is polled is evaluated at one moment after the other, and each evaluation has an
outcome: it holds, it does not hold, or it fails.  A poll goes on over the outcomes that are false.
It ends with the first that is not, or with the one that comes after the last retry, and it does
not look further.

* `evaluation`: what the evaluations of a condition are, if a sleep follows on each;
* `FirstSettled`: the first outcome that is not false; `LastAt`: the outcome at which a poll ends;
* `run_pollFrom`: **a poll is its evaluations up to the last,** with a sleep between two of them;
* `pollUntil_outcomes`: how often the condition is evaluated, and the result, told by the outcomes;
* `tapeWorld`: every sequence of outcomes is that of a condition.
-/
import Mathlib.Tactic.ByContra
import DeviceSampling.Clock
import DeviceSampling.Config.Basic
import DeviceSampling.Polling

namespace DeviceSampling
namespace Dialog

variable {C : Type} {R : C → Type} {σ : Type}

/-! ## 1. Evaluations -/

section Evaluations

variable (w : World C R σ) (condition : Dialog C R Bool) (delay : Binary64)

/-- The world before an evaluation, if a sleep follows on each evaluation before it. -/
def roundStart : Nat → σ → σ
  | 0, s => s
  | i + 1, s => roundStart i (w.sleep delay (condition.run w s).world).2

/-- The evaluation of a condition with a given number, counted from zero. -/
def evaluation (s : σ) (i : Nat) : Outcome C R σ Bool :=
  condition.run w (roundStart w condition delay i s)

/-- The events of the evaluations up to the last, with a sleep between two of them. -/
def evaluationEvents (s : σ) (last : Nat) : List (Event C R) :=
  [.slept delay false].intercalate
    ((List.range (last + 1)).map fun i => (evaluation w condition delay s i).events)

/-- The first evaluation, a sleep, and the evaluations of the world after it. -/
theorem evaluationEvents_succ (s : σ) (last : Nat) :
    evaluationEvents w condition delay s (last + 1) =
      (condition.run w s).events ++ .slept delay false ::
        evaluationEvents w condition delay (w.sleep delay (condition.run w s).world).2 last := by
  unfold evaluationEvents
  have hrest : ((List.range (last + 1)).map Nat.succ).map
        (fun i => (evaluation w condition delay s i).events) =
      (List.range (last + 1)).map fun i =>
        (evaluation w condition delay (w.sleep delay (condition.run w s).world).2 i).events := by
    rw [List.map_map]
    rfl
  have hne : ((List.range (last + 1)).map fun i =>
      (evaluation w condition delay (w.sleep delay (condition.run w s).world).2 i).events) ≠ [] := by
    simp
  rw [List.range_succ_eq_map, List.map_cons, hrest]
  obtain ⟨e, es, he⟩ := List.exists_cons_of_ne_nil hne
  rw [he, List.intercalate_cons_cons, List.append_assoc]
  rfl

end Evaluations

/-! ## 2. The end of a poll -/

section Ends

variable (outcomes : Nat → Except Fault Bool)

/-- The first outcome that is not false: the condition holds, or fails. -/
def FirstSettled (i : Nat) : Prop := outcomes i ≠ .ok false ∧ ∀ k < i, outcomes k = .ok false

/-- **The outcome at which a poll ends:** the first that is not false, or the one after the last
retry. -/
structure LastAt (retries last : Nat) : Prop where
  le : last ≤ retries
  before : ∀ k < last, outcomes k = .ok false
  ends : outcomes last ≠ .ok false ∨ last = retries

variable {outcomes}

/-- Without a first outcome that is not false, all are false. -/
theorem eq_false_of_no_firstSettled (h : ∀ i, ¬ FirstSettled outcomes i) (i : Nat) :
    outcomes i = .ok false := by
  induction i using Nat.strongRecOn with
  | ind i ih =>
    by_contra hne
    exact h i ⟨hne, ih⟩

theorem FirstSettled.lastAt {i : Nat} (h : FirstSettled outcomes i) (retries : Nat) :
    LastAt outcomes retries (min i retries) where
  le := Nat.min_le_right i retries
  before := fun k hk => h.2 k (Nat.lt_of_lt_of_le hk (Nat.min_le_left i retries))
  ends := by
    rcases Nat.le_total i retries with hle | hle
    · rw [Nat.min_eq_left hle]
      exact Or.inl h.1
    · exact Or.inr (Nat.min_eq_right hle)

theorem lastAt_of_no_firstSettled (h : ∀ i, ¬ FirstSettled outcomes i) (retries : Nat) :
    LastAt outcomes retries retries :=
  ⟨Nat.le_refl retries, fun k _ => eq_false_of_no_firstSettled h k, Or.inr rfl⟩

/-- **A poll ends at one of the outcomes.** -/
theorem exists_lastAt (outcomes : Nat → Except Fault Bool) (retries : Nat) :
    ∃ last, LastAt outcomes retries last := by
  by_cases h : ∃ i, FirstSettled outcomes i
  · obtain ⟨i, hi⟩ := h
    exact ⟨_, hi.lastAt retries⟩
  · exact ⟨retries, lastAt_of_no_firstSettled (not_exists.1 h) retries⟩

namespace LastAt

variable {retries last : Nat}

/-- An outcome at the end that is not false is the first such. -/
theorem firstSettled (h : LastAt outcomes retries last) (hne : outcomes last ≠ .ok false) :
    FirstSettled outcomes last := ⟨hne, h.before⟩

/-- The first outcome that is not false is the end, unless the retries are used up before. -/
theorem eq_min (h : LastAt outcomes retries last) {i : Nat} (hi : FirstSettled outcomes i) :
    last = min i retries := by
  rcases Nat.lt_trichotomy last i with hlt | heq | hgt
  · rcases h.ends with hne | rfl
    · exact absurd (hi.2 last hlt) hne
    · exact (Nat.min_eq_right (Nat.le_of_lt hlt)).symm
  · rw [← heq, Nat.min_eq_left h.le]
  · exact absurd (h.before i hgt) hi.1

theorem eq_retries (h : LastAt outcomes retries last) (hnone : ∀ i, ¬ FirstSettled outcomes i) :
    last = retries := by
  rcases h.ends with hne | heq
  · exact absurd (eq_false_of_no_firstSettled hnone last) hne
  · exact heq

/-- After a first outcome that is false, a poll goes on as one with a retry less. -/
theorem tail (h : LastAt outcomes (retries + 1) last) (hfalse : outcomes 0 = .ok false) :
    ∃ later, last = later + 1 ∧ LastAt (fun i => outcomes (i + 1)) retries later := by
  cases last with
  | zero =>
    rcases h.ends with hne | heq
    · exact absurd hfalse hne
    · cases heq
  | succ later =>
    refine ⟨later, rfl, Nat.le_of_succ_le_succ h.le, ?_, ?_⟩
    · exact fun k hk => h.before (k + 1) (Nat.succ_lt_succ hk)
    · exact h.ends.imp_right Nat.succ.inj

/-- A first outcome that is not false is the end. -/
theorem eq_zero (h : LastAt outcomes retries last) (hne : outcomes 0 ≠ .ok false) : last = 0 := by
  have hzero : FirstSettled outcomes 0 := ⟨hne, fun k hk => absurd hk (Nat.not_lt_zero k)⟩
  rw [h.eq_min hzero, Nat.zero_min]

/-- Only the outcomes up to the last retry count. -/
theorem congr {others : Nat → Except Fault Bool} (h : LastAt outcomes retries last)
    (heq : ∀ i ≤ retries, outcomes i = others i) : LastAt others retries last where
  le := h.le
  before k hk := heq k (Nat.le_trans (Nat.le_of_lt hk) h.le) ▸ h.before k hk
  ends := heq last h.le ▸ h.ends

end LastAt
end Ends

/-! ## 3. The run of a poll -/

/-- What a poll notes when its retries are used up; nothing if it ends in another way. -/
def closingNote (what : String) (retries : Nat) : Except Fault Bool → List (Event C R)
  | .ok false =>
    [.logged ⟨.debug, .polling, what ++ " not met after " ++ toString retries ++ " retries"⟩]
  | _ => []

section Runs

variable {w : World C R σ} {condition : Dialog C R Bool} {delay : Binary64} {what : String}

/-- A poll whose first evaluation is its last. -/
theorem run_pollFrom_last {left used : Nat} {s : σ}
    (h : (condition.run w s).result ≠ .ok false ∨ left = 0) :
    (pollFrom condition delay what used left).run w s =
      ⟨(condition.run w s).result,
        (condition.run w s).events ++ closingNote what (used + left) (condition.run w s).result,
        (condition.run w s).world⟩ := by
  cases left with
  | zero =>
    rw [pollFrom, run_bind]
    unfold Outcome.andThen
    split
    · next holds hresult =>
      rw [hresult]
      cases holds <;> rfl
    · next f hresult =>
      rw [hresult, closingNote, List.append_nil]
      exact fun h => by cases h
  | succ left =>
    rw [pollFrom, run_bind]
    unfold Outcome.andThen
    split
    · next holds hresult =>
      rw [hresult] at h ⊢
      cases holds with
      | true => rfl
      | false => simp at h
    · next f hresult =>
      rw [hresult, closingNote, List.append_nil]
      exact fun h => by cases h

/-- A poll whose first evaluation is false, and that has a retry left, sleeps and goes on. -/
theorem run_pollFrom_again (hclock : ∀ t, (w.sleep delay t).1 = false) {left used : Nat} {s : σ}
    (h : (condition.run w s).result = .ok false) :
    (pollFrom condition delay what used (left + 1)).run w s =
      let o := (pollFrom condition delay what (used + 1) left).run w
        (w.sleep delay (condition.run w s).world).2
      { o with events := (condition.run w s).events ++ .slept delay false :: o.events } := by
  rw [pollFrom, run_bind]
  unfold Outcome.andThen
  rw [h]
  simp only [Bool.false_eq_true, if_false, pause, bind, run, hclock, done_bind, Outcome.after]

/-- **A poll is its evaluations up to the last,** with a sleep between two of them, and has the result
of the last. -/
theorem run_pollFrom (hclock : ∀ t, (w.sleep delay t).1 = false) (what : String) (used : Nat)
    {left last : Nat} {s : σ}
    (h : LastAt (fun i => (evaluation w condition delay s i).result) left last) :
    (pollFrom condition delay what used left).run w s =
      ⟨(evaluation w condition delay s last).result,
        evaluationEvents w condition delay s last ++
          closingNote what (used + left) (evaluation w condition delay s last).result,
        (evaluation w condition delay s last).world⟩ := by
  -- after a false outcome the rest is a poll with a retry less, in the world after the sleep
  induction left generalizing used last s with
  | zero =>
    obtain rfl := Nat.le_zero.1 h.le
    rw [run_pollFrom_last (Or.inr rfl)]
    simp [evaluationEvents, evaluation, roundStart]
  | succ left ih =>
    by_cases hfalse : (condition.run w s).result = .ok false
    · obtain ⟨later, rfl, hlater⟩ := h.tail hfalse
      rw [run_pollFrom_again hclock hfalse, ih _ hlater, evaluationEvents_succ]
      simp only [List.append_assoc, List.cons_append, Nat.add_right_comm used 1 left]
      rfl
    · obtain rfl := h.eq_zero hfalse
      rw [run_pollFrom_last (Or.inl hfalse)]
      simp [evaluationEvents, evaluation, roundStart]

end Runs

/-! ## 4. Outcomes in a row -/

/-- **A poll of a sequence of outcomes.**  Let the sleeps of a policy not be interrupted, and let the
evaluations of a condition have the given outcomes, as far as the retries go; what comes after them
is left open, and is not observed.  Then the poll evaluates the condition once for each outcome up to
the first that is not false, or up to the last retry, and sleeps the delay between two evaluations and
at no other time.  It has the result of the first outcome that is not false if that comes within the
retries, and is false if not. -/
theorem pollUntil_outcomes {w : World C R σ} {condition : Dialog C R Bool} {policy : PollingPolicy}
    {s : σ} {outcomes : Nat → Except Fault Bool}
    (hclock : ∀ t, (w.sleep policy.delay t).1 = false)
    (houtcomes : ∀ i ≤ policy.maxRetries,
      (evaluation w condition policy.delay s i).result = outcomes i) (what : String) :
    let o := (pollUntil condition policy what).run w s
    (∃ last, (∀ i, FirstSettled outcomes i → last = min i policy.maxRetries) ∧
        ((∀ i, ¬ FirstSettled outcomes i) → last = policy.maxRetries) ∧
        o.events = [.slept policy.delay false].intercalate ((List.range (last + 1)).map fun i =>
          (evaluation w condition policy.delay s i).events) ++
            closingNote what policy.maxRetries o.result) ∧
      (o.result = .ok true ↔
        ∃ i ≤ policy.maxRetries, FirstSettled outcomes i ∧ outcomes i = .ok true) ∧
      (∀ f, o.result = .error f ↔
        ∃ i ≤ policy.maxRetries, FirstSettled outcomes i ∧ outcomes i = .error f) ∧
      (o.result = .ok false ↔ ∀ i ≤ policy.maxRetries, ¬ FirstSettled outcomes i) := by
  obtain ⟨last, hlast⟩ := exists_lastAt outcomes policy.maxRetries
  have hrun := run_pollFrom hclock what 0
    (hlast.congr fun i hi => (houtcomes i hi).symm)
  rw [houtcomes last hlast.le, Nat.zero_add] at hrun
  have hsettled : ∀ r ≠ .ok false, outcomes last = r ↔
      ∃ i ≤ policy.maxRetries, FirstSettled outcomes i ∧ outcomes i = r := by
    intro r hr
    constructor
    · intro hl
      exact ⟨last, hlast.le, hlast.firstSettled (hl ▸ hr), hl⟩
    · rintro ⟨i, hi, hfirst, hir⟩
      rw [hlast.eq_min hfirst, Nat.min_eq_left hi, hir]
  intro o
  have ho : o = (pollFrom condition policy.delay what 0 policy.maxRetries).run w s := rfl
  rw [ho, hrun]
  refine ⟨⟨last, fun i => hlast.eq_min, hlast.eq_retries, rfl⟩, hsettled _ (by simp),
    fun f => hsettled _ (by simp), ?_, ?_⟩
  · intro hfalse i hi hfirst
    rw [hlast.eq_min hfirst, Nat.min_eq_left hi] at hfalse
    exact hfirst.1 hfalse
  · intro hnone
    by_contra hne
    exact hnone last hlast.le (hlast.firstSettled hne)

/-! ## 5. Tapes -/

/-- A condition that asks for its outcome. -/
def nextOutcome : Dialog Unit (fun _ => Except Fault Bool) Bool :=
  .call () fun outcome => ofExcept outcome

/-- A world that gives the outcomes of a tape one after the other, beside a clock that does what it
likes. -/
def tapeWorld {τ : Type} (outcomes : Nat → Except Fault Bool) (clock : Binary64 → τ → τ) :
    World Unit (fun _ => Except Fault Bool) (Nat × τ) where
  call _ s := (outcomes s.1, s.1 + 1, s.2)
  spawn _ s := ((false, outcomes s.1), s.1 + 1, s.2)
  sleep seconds s := (false, s.1, clock seconds s.2)

/-- **Every sequence of outcomes is that of a condition:** its evaluations read the tape, one outcome
each. -/
theorem evaluation_tape {τ : Type} (outcomes : Nat → Except Fault Bool)
    (clock : Binary64 → τ → τ) (delay : Binary64) (t : τ) (i : Nat) :
    (evaluation (tapeWorld outcomes clock) nextOutcome delay (0, t) i).result = outcomes i ∧
      (evaluation (tapeWorld outcomes clock) nextOutcome delay (0, t) i).events =
        [.called () (outcomes i)] := by
  have hread : ∀ s : Nat × τ, nextOutcome.run (tapeWorld outcomes clock) s =
      ⟨outcomes s.1, [.called () (outcomes s.1)], s.1 + 1, s.2⟩ := by
    intro s
    simp only [nextOutcome, run, tapeWorld, Outcome.after]
    cases outcomes s.1 <;> rfl
  have hstart : ∀ (i : Nat) (s : Nat × τ),
      (roundStart (tapeWorld outcomes clock) nextOutcome delay i s).1 = s.1 + i := by
    intro i
    induction i with
    | zero => exact fun s => rfl
    | succ i ih =>
      intro s
      rw [roundStart, ih, hread]
      exact Nat.add_right_comm s.1 1 i
  rw [evaluation, hread, hstart, Nat.zero_add]
  exact ⟨rfl, rfl⟩

/-- Two checks that are false, and then a device that is lost. -/
def lostAfterTwo : Nat → Except Fault Bool
  | 0 | 1 => .ok false
  | _ => .error (.unreachable "device offline")

/-- With three retries the fault is met at the third check, after two sleeps. -/
theorem pollUntil_outcomes_lostDevice :
    let w := tapeWorld lostAfterTwo fun seconds clock => VirtualClock.sleep clock seconds
    let delay := defaultStartWait.delay
    let o := (pollUntil nextOutcome defaultStartWait "start").run w (0, {})
    (∀ t, (w.sleep delay t).1 = false) ∧
      (∀ i ≤ defaultStartWait.maxRetries,
        (evaluation w nextOutcome delay (0, {}) i).result = lostAfterTwo i) ∧
      o.result = .error (.unreachable "device offline") ∧
      o.events = [.called () (.ok false), .slept delay false, .called () (.ok false),
        .slept delay false, .called () (.error (.unreachable "device offline"))] := by
  intro w delay o
  have hclock : ∀ t, (w.sleep delay t).1 = false := fun t => rfl
  have htape := evaluation_tape lostAfterTwo (fun s clock => VirtualClock.sleep clock s) delay {}
  have hfirst : FirstSettled lostAfterTwo 2 := by
    refine ⟨fun h => (by cases h), fun k hk => ?_⟩
    match k, hk with
    | 0, _ => rfl
    | 1, _ => rfl
  obtain ⟨⟨last, hlast, -, hevents⟩, -, hfails, -⟩ :=
    pollUntil_outcomes hclock (fun i _ => (htape i).1) "start"
  have hresult := (hfails (.unreachable "device offline")).2 ⟨2, by decide, hfirst, rfl⟩
  refine ⟨hclock, fun i _ => (htape i).1, hresult, ?_⟩
  obtain rfl : last = 2 := hlast 2 hfirst
  rw [hevents, hresult, List.map_congr_left fun i _ => (htape i).2]
  rfl

end Dialog
end DeviceSampling
