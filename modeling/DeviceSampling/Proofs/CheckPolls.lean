/-
# Polls on a reliable device

A device is RELIABLE here if a command gets a result or does not reach it, and no sleep is
interrupted.  On such a device a running check has a positive or a negative answer, never a fault,
and a poll is the list of its answers, with a sleep between two of them.

* `Foreseen`, `Undisturbed`, `Reliable`: such answers, deeds and devices;
* `polled`: the deeds of a poll with the given answers;
* `PollEnds`: which answers a poll gets, and how it ends;
* `exists_polled`: **a poll of running checks is one of these.**
-/
import DeviceSampling.Proofs.SessionTraces

namespace DeviceSampling
namespace Session

open Dialog

variable {config : SamplerConfig}

/-! ## 1. Reliable devices -/

/-- The answer of a command that got a result, or did not reach the device. -/
def Foreseen (answer : Except Fault ShellResult) : Prop :=
  ∀ f, answer = .error f → ∃ message, f = .unreachable message

/-- Every command has a foreseen answer, and no sleep is interrupted. -/
structure Undisturbed (es : List Deed) : Prop where
  answers : ∀ c a, .called c a ∈ es → Foreseen a
  sleeps : ∀ seconds, .slept seconds true ∉ es

/-- **A reliable device:** it gives foreseen answers and lets sleeps be.  What it answers to a
worker is left open. -/
structure Reliable {σ : Type} (w : World ShellCall ShellAnswer σ) : Prop where
  answers : ∀ c s, Foreseen (w.call c s).1
  sleeps : ∀ seconds s, (w.sleep seconds s).1 = false

theorem Undisturbed.of_subset {es fs : List Deed} (h : Undisturbed fs) (hs : es ⊆ fs) :
    Undisturbed es :=
  ⟨fun c a hc => h.answers c a (hs hc), fun seconds hc => h.sleeps seconds (hs hc)⟩

theorem Undisturbed.left {es fs : List Deed} (h : Undisturbed (es ++ fs)) : Undisturbed es :=
  h.of_subset (List.subset_append_left es fs)

theorem Undisturbed.right {es fs : List Deed} (h : Undisturbed (es ++ fs)) : Undisturbed fs :=
  h.of_subset (List.subset_append_right es fs)

theorem Undisturbed.tail {e : Deed} {es : List Deed} (h : Undisturbed (e :: es)) : Undisturbed es :=
  h.of_subset (List.subset_cons_self e es)

/-- The first command has a foreseen answer. -/
theorem Undisturbed.head {purpose : Purpose} {command : String} {a : Except Fault ShellResult}
    {es : List Deed} (h : Undisturbed (issued purpose command a :: es)) : Foreseen a :=
  h.answers _ a List.mem_cons_self

/-- **A run on a reliable device is undisturbed.** -/
theorem Reliable.undisturbed {σ α : Type} {w : World ShellCall ShellAnswer σ} (hw : Reliable w)
    (d : Session α) (s : σ) : Undisturbed (deeds (d.run w s).events) := by
  constructor
  · intro c a hc
    obtain ⟨s', rfl⟩ := exists_call_of_called (mem_deeds.1 hc).1
    exact hw.answers c s'
  · intro seconds hc
    obtain ⟨s', hs⟩ := exists_sleep_of_slept (mem_deeds.1 hc).1
    rw [hw.sleeps] at hs
    cases hs

/-- **A running check has no fault** on a foreseen answer: it holds if the answer is positive. -/
theorem checkEnd_of_foreseen {a : Except Fault ShellResult} (h : Foreseen a) :
    ∃ b, checkEnd a = .ok b ∧ (b = true ↔ Positive a) := by
  match a with
  | .error f =>
    obtain ⟨message, rfl⟩ := h f rfl
    exact ⟨false, rfl, iff_of_false Bool.false_ne_true not_positive_error⟩
  | .ok r => exact ⟨r.showsRunning, rfl, showsRunning_iff⟩

/-! ## 2. Sleeps -/

/-- The sleep of a deed, if it is one. -/
def slept? : Deed → Option Binary64
  | .slept seconds _ => some seconds
  | _ => none

/-- The sleeps among the events of a run. -/
def sleeps (es : List Deed) : List Binary64 := es.filterMap slept?

@[simp] theorem sleeps_append (es fs : List Deed) : sleeps (es ++ fs) = sleeps es ++ sleeps fs :=
  List.filterMap_append

@[simp] theorem sleeps_issued (purpose : Purpose) (command : String)
    (a : Except Fault ShellResult) (es : List Deed) :
    sleeps (issued purpose command a :: es) = sleeps es := rfl

/-- Log records are no sleeps. -/
theorem sleeps_deeds (es : List Deed) : sleeps (deeds es) = sleeps es := by
  unfold sleeps deeds
  rw [List.filterMap_filter]
  congr 1
  funext e
  cases e <;> rfl

/-! ## 3. Polls -/

/-- The deeds of a poll whose running checks have these answers: a sleep between two checks. -/
def polled (config : SamplerConfig) (delay : Binary64)
    (answers : List (Except Fault ShellResult)) : List Deed :=
  (answers.map (check config)).intersperse (.slept delay false)

theorem polled_cons (delay : Binary64) (a : Except Fault ShellResult)
    {answers : List (Except Fault ShellResult)} (h : answers ≠ []) :
    polled config delay (a :: answers) =
      check config a :: .slept delay false :: polled config delay answers := by
  obtain ⟨b, rest, rfl⟩ := List.exists_cons_of_ne_nil h
  rfl

/-- A poll sleeps between two checks only. -/
theorem sleeps_polled (delay : Binary64) : ∀ answers : List (Except Fault ShellResult),
    sleeps (polled config delay answers) = List.replicate (answers.length - 1) delay
  | [] => rfl
  | [a] => rfl
  | a :: b :: rest => by
    have ih := sleeps_polled delay (b :: rest)
    rw [polled_cons delay a (List.cons_ne_nil b rest)]
    show delay :: sleeps (polled config delay (b :: rest)) = _
    rw [ih]
    rfl

/-- **How a poll ends:** with the first answer that holds, or without one after as many retries as
there are.  No further check is made in either case. -/
inductive PollEnds (holds : Except Fault ShellResult → Prop) (retries : Nat) :
    List (Except Fault ShellResult) → Bool → Prop
  | met {waiting last} : (∀ a ∈ waiting, ¬ holds a) → holds last → waiting.length ≤ retries →
      PollEnds holds retries (waiting ++ [last]) true
  | spent {answers} : (∀ a ∈ answers, ¬ holds a) → answers.length = retries + 1 →
      PollEnds holds retries answers false

namespace PollEnds

variable {holds : Except Fault ShellResult → Prop} {retries : Nat}
variable {answers : List (Except Fault ShellResult)} {b : Bool}

theorem ne_nil (h : PollEnds holds retries answers b) : answers ≠ [] := by
  cases h with
  | met => exact List.concat_ne_nil _ _
  | spent _ hl =>
    rintro rfl
    cases hl

theorem length_le (h : PollEnds holds retries answers b) : answers.length ≤ retries + 1 := by
  cases h with
  | met _ _ hl =>
    rw [List.length_append, List.length_singleton]
    exact Nat.succ_le_succ hl
  | spent _ hl => exact Nat.le_of_eq hl

/-- **A poll succeeds exactly if one of its answers holds.** -/
theorem eq_true_iff (h : PollEnds holds retries answers b) : b = true ↔ ∃ a ∈ answers, holds a := by
  cases h with
  | @met waiting last _ hlast _ =>
    exact iff_of_true rfl ⟨last, List.mem_append_right waiting List.mem_cons_self, hlast⟩
  | spent hno _ =>
    refine iff_of_false Bool.false_ne_true ?_
    rintro ⟨a, ha, h⟩
    exact hno a ha h

/-- One more answer that does not hold takes one more retry. -/
theorem cons {a : Except Fault ShellResult} (ha : ¬ holds a) (h : PollEnds holds retries answers b) :
    PollEnds holds (retries + 1) (a :: answers) b := by
  have hcons : ∀ {as : List (Except Fault ShellResult)}, (∀ c ∈ as, ¬ holds c) →
      ∀ c ∈ a :: as, ¬ holds c := by
    intro as has c hc
    rcases List.mem_cons.1 hc with rfl | hc
    · exact ha
    · exact has c hc
  cases h with
  | met hno hlast hl => exact .met (hcons hno) hlast (Nat.succ_le_succ hl)
  | spent hno hl => exact .spent (hcons hno) (congrArg Nat.succ hl)

end PollEnds

/-- The answer that a poll of running checks waits for. -/
def Awaited (goal : Bool) (a : Except Fault ShellResult) : Prop := goal = true ↔ Positive a

theorem awaited_true : Awaited true = Positive := by
  funext a
  exact propext ⟨fun h => h.1 rfl, fun h => iff_of_true rfl h⟩

theorem awaited_false : Awaited false = (¬ Positive ·) := by
  funext a
  exact propext ⟨fun h hp => Bool.false_ne_true (h.2 hp), iff_of_false Bool.false_ne_true⟩

/-- A round of a poll is a check, and holds if its answer is the awaited one. -/
theorem awaited_of_checkRound {goal b : Bool} {es : List Deed}
    (h : CheckRound config goal es (.ok b)) (hes : Undisturbed es) :
    ∃ a, es = [check config a] ∧ (b = true ↔ Awaited goal a) := by
  obtain ⟨a, rfl, ha⟩ := checkRound_ok h
  obtain ⟨b', hb', hp⟩ := checkEnd_of_foreseen hes.head
  rw [ha] at hb'
  obtain rfl := Except.ok.inj hb'
  refine ⟨a, rfl, ?_⟩
  unfold Awaited
  rw [← hp]
  cases b <;> cases goal <;> decide

/-- **A poll of running checks on a reliable device** is a list of answers with a sleep between two
of them, up to the first that is awaited or as far as the retries go. -/
theorem exists_polled {goal : Bool} {delay : Binary64} {retries : Nat} {es : List Deed}
    {r : Except Fault Bool} (h : PollGoes (CheckRound config goal) delay retries es r)
    (hes : Undisturbed es) :
    ∃ answers b, es = polled config delay answers ∧ r = .ok b ∧
      PollEnds (Awaited goal) retries answers b := by
  induction h with
  | met hc =>
    obtain ⟨a, rfl, ha⟩ := awaited_of_checkRound hc hes
    refine ⟨[a], true, rfl, rfl, ?_⟩
    exact .met (fun c hc => absurd hc List.not_mem_nil) (ha.1 rfl) (Nat.zero_le _)
  | spent hc =>
    obtain ⟨a, rfl, ha⟩ := awaited_of_checkRound hc hes
    refine ⟨[a], false, rfl, rfl, .spent (fun c hc hh => ?_) rfl⟩
    rw [List.mem_singleton.1 hc] at hh
    exact Bool.false_ne_true (ha.2 hh)
  | again hc _ ih =>
    obtain ⟨a, rfl, ha⟩ := awaited_of_checkRound hc hes.left
    obtain ⟨answers, b, rfl, rfl, hend⟩ := ih hes.right.tail
    refine ⟨a :: answers, b, (polled_cons delay a hend.ne_nil).symm, rfl, hend.cons ?_⟩
    exact fun hh => Bool.false_ne_true (ha.2 hh)
  | interrupted => exact absurd (List.mem_append_right _ List.mem_cons_self) (hes.sleeps delay)
  | failed hc =>
    obtain ⟨a, rfl, ha⟩ := hc
    obtain ⟨b, hb, -⟩ := checkEnd_of_foreseen hes.head
    rw [hb] at ha
    cases ha

end Session
end DeviceSampling
