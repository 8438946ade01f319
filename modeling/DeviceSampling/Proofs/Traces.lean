/-
# What a dialogue may do

`Dialog.run` plays a dialogue against one world.  A fact about every world is a fact about the
dialogue alone: which deeds it may do, in which order, and with which end.  A DEED is an event
that is no log record, so the records that a run writes do not appear here at all.

* `MayGo d es r`: for some answers of the outside, `d` does exactly the deeds `es` and ends
  with `r`;
* `run_mayGo`: a run against any world is one of these;
* `mayGo_bind` takes a sequence apart, `mayGo_attempt` an attempt;
* `exists_call_of_called`, `exists_sleep_of_slept`: an answer in a run is an answer of its world;
* `run_attempt`: an attempt runs as the dialogue does;
* `PollGoes`, `pollFrom_mayGo`: the rounds of a poll.
-/
import DeviceSampling.Polling

namespace DeviceSampling
namespace Dialog

variable {C : Type} {R : C → Type} {α β : Type}

/-! ## 1. Deeds -/

/-- Whether an event is more than a log record. -/
def Event.isDeed : Event C R → Bool
  | .logged _ => false
  | _ => true

/-- The events that are more than log records. -/
def deeds (es : List (Event C R)) : List (Event C R) := es.filter Event.isDeed

/-- `d.MayGo es r`: for some answers, the dialogue does the deeds `es` and ends with `r`. -/
def MayGo : Dialog C R α → List (Event C R) → Except Fault α → Prop
  | done a, es, r => es = [] ∧ r = .ok a
  | fail f, es, r => es = [] ∧ r = .error f
  | log _ next, es, r => next.MayGo es r
  | sleep d next, es, r => ∃ b rest, es = .slept d b :: rest ∧ (next b).MayGo rest r
  | call c next, es, r => ∃ a rest, es = .called c a :: rest ∧ (next a).MayGo rest r
  | spawn c next, es, r => ∃ held a rest, es = .spawned c held a :: rest ∧ (next held a).MayGo rest r

/-- **Every run is one of the ways in which the dialogue may go.** -/
theorem run_mayGo {σ : Type} (w : World C R σ) (d : Dialog C R α) (s : σ) :
    d.MayGo (deeds (d.run w s).events) (d.run w s).result := by
  induction d generalizing s with
  | done a => exact ⟨rfl, rfl⟩
  | fail f => exact ⟨rfl, rfl⟩
  | log r next ih => exact ih s
  | sleep d next ih => exact ⟨_, _, rfl, ih _ _⟩
  | call c next ih => exact ⟨_, _, rfl, ih _ _⟩
  | spawn c next ih => exact ⟨_, _, _, rfl, ih _ _ _⟩

/-! ## 2. Taking dialogues apart -/

/-- **A sequence goes as its parts do:** all of the first and then the second, or the first up
to its fault. -/
theorem mayGo_bind {d : Dialog C R α} {k : α → Dialog C R β} {es : List (Event C R)}
    {r : Except Fault β} :
    (d.bind k).MayGo es r ↔
      (∃ a front rest, es = front ++ rest ∧ d.MayGo front (.ok a) ∧ (k a).MayGo rest r) ∨
        ∃ f, r = .error f ∧ d.MayGo es (.error f) := by
  induction d generalizing es with
  | done a =>
    constructor
    · intro h
      exact Or.inl ⟨a, [], es, rfl, ⟨rfl, rfl⟩, h⟩
    · rintro (⟨a', front, rest, rfl, ⟨rfl, h⟩, h2⟩ | ⟨f, -, -, h⟩)
      · cases h
        exact h2
      · cases h
  | fail f =>
    constructor
    · rintro ⟨rfl, rfl⟩
      exact Or.inr ⟨f, rfl, rfl, rfl⟩
    · rintro (⟨a', front, rest, -, ⟨-, h⟩, -⟩ | ⟨f', rfl, rfl, h⟩)
      · cases h
      · cases h
        exact ⟨rfl, rfl⟩
  | log _ next ih => exact ih
  | sleep d next ih =>
    simp only [bind, MayGo, ih]
    constructor
    · rintro ⟨b, rest, rfl, ⟨a, front, rest, rfl, h1, h2⟩ | ⟨f, rfl, h⟩⟩
      · exact Or.inl ⟨a, .slept d b :: front, rest, rfl, ⟨b, front, rfl, h1⟩, h2⟩
      · exact Or.inr ⟨f, rfl, b, rest, rfl, h⟩
    · rintro (⟨a, _, rest, rfl, ⟨b, front, rfl, h1⟩, h2⟩ | ⟨f, rfl, b, rest, rfl, h⟩)
      · exact ⟨b, front ++ rest, rfl, Or.inl ⟨a, front, rest, rfl, h1, h2⟩⟩
      · exact ⟨b, rest, rfl, Or.inr ⟨f, rfl, h⟩⟩
  | call c next ih =>
    simp only [bind, MayGo, ih]
    constructor
    · rintro ⟨b, rest, rfl, ⟨a, front, rest, rfl, h1, h2⟩ | ⟨f, rfl, h⟩⟩
      · exact Or.inl ⟨a, .called c b :: front, rest, rfl, ⟨b, front, rfl, h1⟩, h2⟩
      · exact Or.inr ⟨f, rfl, b, rest, rfl, h⟩
    · rintro (⟨a, _, rest, rfl, ⟨b, front, rfl, h1⟩, h2⟩ | ⟨f, rfl, b, rest, rfl, h⟩)
      · exact ⟨b, front ++ rest, rfl, Or.inl ⟨a, front, rest, rfl, h1, h2⟩⟩
      · exact ⟨b, rest, rfl, Or.inr ⟨f, rfl, h⟩⟩
  | spawn c next ih =>
    simp only [bind, MayGo, ih]
    constructor
    · rintro ⟨held, b, rest, rfl, ⟨a, front, rest, rfl, h1, h2⟩ | ⟨f, rfl, h⟩⟩
      · exact Or.inl ⟨a, .spawned c held b :: front, rest, rfl, ⟨held, b, front, rfl, h1⟩, h2⟩
      · exact Or.inr ⟨f, rfl, held, b, rest, rfl, h⟩
    · rintro (⟨a, _, rest, rfl, ⟨held, b, front, rfl, h1⟩, h2⟩ | ⟨f, rfl, held, b, rest, rfl, h⟩)
      · exact ⟨held, b, front ++ rest, rfl, Or.inl ⟨a, front, rest, rfl, h1, h2⟩⟩
      · exact ⟨held, b, rest, rfl, Or.inr ⟨f, rfl, h⟩⟩

/-- A second part that only writes log records and passes the result on makes no difference. -/
theorem mayGo_of_bind_echo {d : Dialog C R α} {k : α → Dialog C R α}
    (hk : ∀ {a es r}, (k a).MayGo es r → es = [] ∧ r = .ok a) {es : List (Event C R)}
    {r : Except Fault α} (h : (d.bind k).MayGo es r) : d.MayGo es r := by
  rcases mayGo_bind.1 h with ⟨a, front, rest, rfl, hd, hr⟩ | ⟨f, rfl, hd⟩
  · obtain ⟨rfl, rfl⟩ := hk hr
    rw [List.append_nil]
    exact hd
  · exact hd

/-- An attempt goes as the dialogue does, and never fails. -/
theorem mayGo_attempt {d : Dialog C R α} {es : List (Event C R)}
    {r : Except Fault (Except Fault α)} :
    d.attempt.MayGo es r ↔ ∃ end', r = .ok end' ∧ d.MayGo es end' := by
  induction d generalizing es with
  | done a =>
    constructor
    · rintro ⟨rfl, rfl⟩
      exact ⟨.ok a, rfl, rfl, rfl⟩
    · rintro ⟨_, rfl, rfl, rfl⟩
      exact ⟨rfl, rfl⟩
  | fail f =>
    constructor
    · rintro ⟨rfl, rfl⟩
      exact ⟨.error f, rfl, rfl, rfl⟩
    · rintro ⟨_, rfl, rfl, rfl⟩
      exact ⟨rfl, rfl⟩
  | log _ next ih => exact ih
  | sleep d next ih =>
    simp only [attempt, MayGo, ih]
    constructor
    · rintro ⟨b, rest, rfl, e, rfl, h⟩
      exact ⟨e, rfl, b, rest, rfl, h⟩
    · rintro ⟨e, rfl, b, rest, rfl, h⟩
      exact ⟨b, rest, rfl, e, rfl, h⟩
  | call c next ih =>
    simp only [attempt, MayGo, ih]
    constructor
    · rintro ⟨b, rest, rfl, e, rfl, h⟩
      exact ⟨e, rfl, b, rest, rfl, h⟩
    · rintro ⟨e, rfl, b, rest, rfl, h⟩
      exact ⟨b, rest, rfl, e, rfl, h⟩
  | spawn c next ih =>
    simp only [attempt, MayGo, ih]
    constructor
    · rintro ⟨held, b, rest, rfl, e, rfl, h⟩
      exact ⟨e, rfl, held, b, rest, rfl, h⟩
    · rintro ⟨e, rfl, held, b, rest, rfl, h⟩
      exact ⟨held, b, rest, rfl, e, rfl, h⟩

/-- A pause does one deed, and goes on unless it is interrupted. -/
theorem mayGo_pause_bind {d : Binary64} {k : Unit → Dialog C R α} {es : List (Event C R)}
    {r : Except Fault α} :
    ((pause d).bind k).MayGo es r ↔
      (∃ rest, es = .slept d false :: rest ∧ (k ()).MayGo rest r) ∨
        (es = [.slept d true] ∧ r = .error .interrupted) := by
  simp only [pause, bind, MayGo]
  constructor
  · rintro ⟨b, rest, rfl, h⟩
    cases b with
    | false => exact Or.inl ⟨rest, rfl, h⟩
    | true =>
      obtain ⟨rfl, rfl⟩ := h
      exact Or.inr ⟨rfl, rfl⟩
  · rintro (⟨rest, rfl, h⟩ | ⟨rfl, rfl⟩)
    · exact ⟨false, rest, rfl, h⟩
    · exact ⟨true, [], rfl, rfl, rfl⟩

/-! ## 3. Answers -/

theorem mem_deeds {e : Event C R} {es : List (Event C R)} :
    e ∈ deeds es ↔ e ∈ es ∧ e.isDeed = true := List.mem_filter

/-- **An answer in a run is an answer of its world.** -/
theorem exists_call_of_called {σ : Type} {w : World C R σ} {d : Dialog C R α} {s : σ} {c : C}
    {a : R c} (h : .called c a ∈ (d.run w s).events) : ∃ s', (w.call c s').1 = a := by
  induction d generalizing s with
  | done _ => exact absurd h List.not_mem_nil
  | fail _ => exact absurd h List.not_mem_nil
  | log _ next ih =>
    rcases List.mem_cons.1 h with h | h
    · cases h
    · exact ih h
  | sleep _ next ih =>
    rcases List.mem_cons.1 h with h | h
    · cases h
    · exact ih _ h
  | call c' next ih =>
    rcases List.mem_cons.1 h with h | h
    · cases h
      exact ⟨s, rfl⟩
    · exact ih _ h
  | spawn _ next ih =>
    rcases List.mem_cons.1 h with h | h
    · cases h
    · exact ih _ _ h

/-- **A sleep in a run is a sleep of its world.** -/
theorem exists_sleep_of_slept {σ : Type} {w : World C R σ} {d : Dialog C R α} {s : σ}
    {seconds : Binary64} {b : Bool} (h : .slept seconds b ∈ (d.run w s).events) :
    ∃ s', (w.sleep seconds s').1 = b := by
  induction d generalizing s with
  | done _ => exact absurd h List.not_mem_nil
  | fail _ => exact absurd h List.not_mem_nil
  | log _ next ih =>
    rcases List.mem_cons.1 h with h | h
    · cases h
    · exact ih h
  | sleep seconds' next ih =>
    rcases List.mem_cons.1 h with h | h
    · cases h
      exact ⟨s, rfl⟩
    · exact ih _ h
  | call _ next ih =>
    rcases List.mem_cons.1 h with h | h
    · cases h
    · exact ih _ h
  | spawn _ next ih =>
    rcases List.mem_cons.1 h with h | h
    · cases h
    · exact ih _ _ h

/-! ## 4. Runs -/

@[simp] theorem deeds_append (es fs : List (Event C R)) : deeds (es ++ fs) = deeds es ++ deeds fs :=
  List.filter_append es fs

/-- A run without deeds leaves the world as it is. -/
theorem run_world_of_deeds_eq_nil {σ : Type} {w : World C R σ} {d : Dialog C R α} {s : σ}
    (h : deeds (d.run w s).events = []) : (d.run w s).world = s := by
  induction d with
  | done _ => rfl
  | fail _ => rfl
  | log _ next ih => exact ih h
  | sleep _ next _ => cases h
  | call _ next _ => cases h
  | spawn _ next _ => cases h

/-- An attempt runs as the dialogue does. -/
theorem run_attempt {σ : Type} (w : World C R σ) (d : Dialog C R α) (s : σ) :
    d.attempt.run w s = ⟨.ok (d.run w s).result, (d.run w s).events, (d.run w s).world⟩ := by
  induction d generalizing s with
  | done _ => rfl
  | fail _ => rfl
  | log _ next ih => simp only [attempt, run, ih, Outcome.after]
  | sleep _ next ih => simp only [attempt, run, ih, Outcome.after]
  | call _ next ih => simp only [attempt, run, ih, Outcome.after]
  | spawn _ next ih => simp only [attempt, run, ih, Outcome.after]

/-! ## 5. Polling -/

/-- How a poll may go with a number of retries left, given how one round of its condition may
go: rounds that do not hold with a sleep between two of them, and one of four ends. -/
inductive PollGoes (round : List (Event C R) → Except Fault Bool → Prop) (delay : Binary64) :
    Nat → List (Event C R) → Except Fault Bool → Prop
  /-- The condition holds. -/
  | met {left es} : round es (.ok true) → PollGoes round delay left es (.ok true)
  /-- No retry is left. -/
  | spent {es} : round es (.ok false) → PollGoes round delay 0 es (.ok false)
  | again {left es rest r} : round es (.ok false) → PollGoes round delay left rest r →
      PollGoes round delay (left + 1) (es ++ .slept delay false :: rest) r
  /-- A sleep is interrupted. -/
  | interrupted {left es} : round es (.ok false) →
      PollGoes round delay (left + 1) (es ++ [.slept delay true]) (.error .interrupted)
  /-- A check fails. -/
  | failed {left es f} : round es (.error f) → PollGoes round delay left es (.error f)

/-- **A poll goes in rounds.** -/
theorem pollFrom_mayGo {condition : Dialog C R Bool} {delay : Binary64} {what : String}
    {round : List (Event C R) → Except Fault Bool → Prop}
    (hround : ∀ {es r}, condition.MayGo es r → round es r) :
    ∀ {left used : Nat} {es : List (Event C R)} {r : Except Fault Bool},
      (pollFrom condition delay what used left).MayGo es r → PollGoes round delay left es r
  | 0, used, es, r, h => by
    rcases mayGo_bind.1 h with ⟨holds, front, rest, rfl, hc, hk⟩ | ⟨f, rfl, hc⟩
    · cases holds with
      | true =>
        obtain ⟨rfl, rfl⟩ := hk
        rw [List.append_nil]
        exact .met (hround hc)
      | false =>
        obtain ⟨rfl, rfl⟩ := hk
        rw [List.append_nil]
        exact .spent (hround hc)
    · exact .failed (hround hc)
  | left + 1, used, es, r, h => by
    rcases mayGo_bind.1 h with ⟨holds, front, rest, rfl, hc, hk⟩ | ⟨f, rfl, hc⟩
    · cases holds with
      | true =>
        obtain ⟨rfl, rfl⟩ := hk
        rw [List.append_nil]
        exact .met (hround hc)
      | false =>
        rcases mayGo_pause_bind.1 hk with ⟨rest, rfl, hr⟩ | ⟨rfl, rfl⟩
        · exact .again (hround hc) (pollFrom_mayGo hround hr)
        · exact .interrupted (hround hc)
    · exact .failed (hround hc)

end Dialog
end DeviceSampling
