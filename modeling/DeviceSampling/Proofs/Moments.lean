/-
# The moments of a run

A world may change with everything that a run does to it.  The MOMENT of a deed is the world right
before it, and it is told by the deeds before it alone, because a world is a machine: given a state
and a deed, there is one next state.  Log records do not count, since they change nothing.

* `World.after`: the world after some events;
* `World.Plays`: events as the world answers them, each in its moment;
* `run_plays`: **every run is such a play**, and ends with the world after its events;
* `Plays.answer_eq`: what a call was answered is what the world answers to it in its moment.
-/
import DeviceSampling.Proofs.Traces

namespace DeviceSampling
namespace Dialog

variable {C : Type} {R : C → Type} {α σ : Type}

namespace World

variable (w : World C R σ)

/-! ## 1. One event -/

/-- The world after an event. -/
def next (s : σ) : Event C R → σ
  | .logged _ => s
  | .slept seconds _ => (w.sleep seconds s).2
  | .called c _ => (w.call c s).2
  | .spawned c _ _ => (w.spawn c s).2

/-- The event is what the world answers. -/
def Answers (s : σ) : Event C R → Prop
  | .logged _ => True
  | .slept seconds interrupted => (w.sleep seconds s).1 = interrupted
  | .called c a => (w.call c s).1 = a
  | .spawned c held a => (w.spawn c s).1 = (held, a)

/-! ## 2. Some events -/

/-- **The world after some events.** -/
def after (s : σ) (es : List (Event C R)) : σ := es.foldl w.next s

/-- **Events as the world answers them,** one after the other. -/
def Plays : σ → List (Event C R) → Prop
  | _, [] => True
  | s, e :: rest => w.Answers s e ∧ Plays (w.next s e) rest

@[simp] theorem after_nil (s : σ) : w.after s [] = s := rfl

@[simp] theorem after_cons (s : σ) (e : Event C R) (rest : List (Event C R)) :
    w.after s (e :: rest) = w.after (w.next s e) rest := rfl

variable {w}

theorem plays_append {fs : List (Event C R)} : ∀ {es : List (Event C R)} {s : σ},
    w.Plays s (es ++ fs) ↔ w.Plays s es ∧ w.Plays (w.after s es) fs
  | [], s => by simp [Plays]
  | e :: rest, s => by
    have ih : w.Plays (w.next s e) (rest ++ fs) ↔
        w.Plays (w.next s e) rest ∧ w.Plays (w.after (w.next s e) rest) fs := plays_append
    simp only [List.cons_append, Plays, after_cons, ih, and_assoc]

/-- **A call is answered by the world in its moment.** -/
theorem Plays.answer_eq {before rest : List (Event C R)} {c : C} {a : R c} {s : σ}
    (h : w.Plays s (before ++ .called c a :: rest)) : (w.call c (w.after s before)).1 = a :=
  (plays_append.1 h).2.1

/-! ## 3. Deeds -/

/-- An event that is no deed is a log record, and changes nothing. -/
theorem next_of_not_isDeed {e : Event C R} (h : e.isDeed = false) (s : σ) : w.next s e = s := by
  cases e with
  | logged => rfl
  | slept => cases h
  | called => cases h
  | spawned => cases h

theorem plays_deeds : ∀ {es : List (Event C R)} {s : σ}, w.Plays s es →
    w.Plays s (deeds es) ∧ w.after s (deeds es) = w.after s es
  | [], s, _ => ⟨trivial, rfl⟩
  | e :: rest, s, h => by
    obtain ⟨hplays, hafter⟩ := plays_deeds h.2
    unfold deeds at hplays hafter ⊢
    cases he : e.isDeed with
    | true =>
      rw [List.filter_cons_of_pos he]
      exact ⟨⟨h.1, hplays⟩, hafter⟩
    | false =>
      rw [next_of_not_isDeed he] at hplays hafter
      rw [List.filter_cons_of_neg (by simp [he]), after_cons, next_of_not_isDeed he]
      exact ⟨hplays, hafter⟩

end World

/-! ## 4. Runs -/

/-- A run is played by its world, log records included. -/
theorem run_plays_events (w : World C R σ) (d : Dialog C R α) (s : σ) :
    w.Plays s (d.run w s).events ∧ w.after s (d.run w s).events = (d.run w s).world := by
  induction d generalizing s with
  | done a => exact ⟨trivial, rfl⟩
  | fail f => exact ⟨trivial, rfl⟩
  | log r next ih => exact ⟨⟨trivial, (ih s).1⟩, (ih s).2⟩
  | sleep seconds next ih => exact ⟨⟨rfl, (ih _ _).1⟩, (ih _ _).2⟩
  | call c next ih => exact ⟨⟨rfl, (ih _ _).1⟩, (ih _ _).2⟩
  | spawn c next ih => exact ⟨⟨rfl, (ih _ _ _).1⟩, (ih _ _ _).2⟩

/-- **The deeds of a run are played by its world,** and lead to the world that the run leaves. -/
theorem run_plays (w : World C R σ) (d : Dialog C R α) (s : σ) :
    w.Plays s (deeds (d.run w s).events) ∧
      w.after s (deeds (d.run w s).events) = (d.run w s).world := by
  obtain ⟨hplays, hafter⟩ := run_plays_events w d s
  obtain ⟨hdeeds, heq⟩ := World.plays_deeds hplays
  exact ⟨hdeeds, heq.trans hafter⟩

end Dialog
end DeviceSampling
