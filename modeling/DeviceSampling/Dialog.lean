/-
# Dialogues

An operation that deals with a device is a DIALOGUE: it ends with a result or a fault, or it
does one thing to the outside (writes a log record, sleeps, calls the device) and goes on with
what the outside answers.  A call may also be SPAWNED, that is made by a worker: the call is made
and its answer chosen at once, but the worker may be held up before the answer reaches it.

A dialogue says nothing of the device.  It is played against a `World`, any state machine that
answers; `run` gives the result, the events in order and the state of the world after them.

* `bind` puts dialogues in sequence, `attempt` turns a fault into a result;
* `lower` replaces every call by a dialogue with a lower interface;
* `run_bind`: a sequence runs as its parts do, one after the other.
-/
import DeviceSampling.Fault
import DeviceSampling.Log

namespace DeviceSampling

/-! ## 1. Dialogues -/

/-- A dialogue with calls `c : C` answered by `R c`, and results of type `α`. -/
inductive Dialog (C : Type) (R : C → Type) (α : Type) where
  | done (a : α)
  | fail (f : Fault)
  | log (record : LogRecord) (next : Dialog C R α)
  /-- Goes on with whether the sleep was interrupted. -/
  | sleep (seconds : Binary64) (next : Bool → Dialog C R α)
  | call (c : C) (next : R c → Dialog C R α)
  /-- Goes on with whether the worker is held up, and the answer that it gets in the end. -/
  | spawn (c : C) (next : Bool → R c → Dialog C R α)

namespace Dialog

variable {C : Type} {R : C → Type} {α β : Type}

/-- A dialogue, and then one that depends on its result. -/
def bind : Dialog C R α → (α → Dialog C R β) → Dialog C R β
  | done a, k => k a
  | fail f, _ => fail f
  | log r next, k => log r (next.bind k)
  | sleep s next, k => sleep s fun b => (next b).bind k
  | call c next, k => call c fun r => (next r).bind k
  | spawn c next, k => spawn c fun held r => (next held r).bind k

instance : Monad (Dialog C R) where
  pure := done
  bind := bind

/-- The dialogue with its fault, if any, as a result. -/
def attempt : Dialog C R α → Dialog C R (Except Fault α)
  | done a => done (.ok a)
  | fail f => done (.error f)
  | log r next => log r next.attempt
  | sleep s next => sleep s fun b => (next b).attempt
  | call c next => call c fun r => (next r).attempt
  | spawn c next => spawn c fun held r => (next held r).attempt

/-- The result, or the fault that stands for it. -/
def ofExcept : Except Fault α → Dialog C R α
  | .ok a => done a
  | .error f => fail f

/-- Writes a log record. -/
def say (severity : Severity) (source : LogSource) (message : String) : Dialog C R Unit :=
  log ⟨severity, source, message⟩ (done ())

/-- Sleeps; an interruption ends the dialogue. -/
def pause (seconds : Binary64) : Dialog C R Unit :=
  sleep seconds fun interrupted => if interrupted then fail .interrupted else done ()

/-- Calls the device and ends with its answer. -/
def ask (c : C) : Dialog C R (R c) := call c done

/-! ## 2. Laws -/

@[simp] theorem done_bind (a : α) (k : α → Dialog C R β) : (done a).bind k = k a := rfl

@[simp] theorem pure_eq_done (a : α) : (pure a : Dialog C R α) = done a := rfl

@[simp] theorem bind_eq (d : Dialog C R α) (k : α → Dialog C R β) : d >>= k = d.bind k := rfl

theorem bind_done (d : Dialog C R α) : d.bind done = d := by
  induction d with
  | done a => rfl
  | fail f => rfl
  | log r next ih => simp only [bind, ih]
  | sleep s next ih => simp only [bind, ih]
  | call c next ih => simp only [bind, ih]
  | spawn c next ih => simp only [bind, ih]

theorem bind_assoc {γ : Type} (d : Dialog C R α) (k : α → Dialog C R β) (l : β → Dialog C R γ) :
    (d.bind k).bind l = d.bind fun a => (k a).bind l := by
  induction d with
  | done a => rfl
  | fail f => rfl
  | log r next ih => simp only [bind, ih]
  | sleep s next ih => simp only [bind, ih]
  | call c next ih => simp only [bind, ih]
  | spawn c next ih => simp only [bind, ih]

/-! ## 3. A lower interface -/

/-- The dialogue with every call carried out by a dialogue of another interface. -/
def lower {D : Type} {S : D → Type} (onCall : (c : C) → Dialog D S (R c))
    (onSpawn : (c : C) → Dialog D S (Bool × R c)) : Dialog C R α → Dialog D S α
  | done a => done a
  | fail f => fail f
  | log r next => log r (next.lower onCall onSpawn)
  | sleep s next => sleep s fun b => (next b).lower onCall onSpawn
  | call c next => (onCall c).bind fun r => (next r).lower onCall onSpawn
  | spawn c next => (onSpawn c).bind fun p => (next p.1 p.2).lower onCall onSpawn

/-! ## 4. Playing a dialogue -/

/-- Something that happened in a dialogue. -/
inductive Event (C : Type) (R : C → Type) where
  | logged (record : LogRecord)
  | slept (seconds : Binary64) (interrupted : Bool)
  | called (c : C) (answer : R c)
  | spawned (c : C) (held : Bool) (answer : R c)

/-- A state machine that answers: calls, calls by a worker, and sleeps. -/
structure World (C : Type) (R : C → Type) (σ : Type) where
  call : (c : C) → σ → R c × σ
  spawn : (c : C) → σ → (Bool × R c) × σ
  /-- A sleep, and whether the user interrupted it.  Every sleep comes to its end, of whatever length:
  a clock that refuses one (NaN, infinity, more than it can count) is no world. -/
  sleep : Binary64 → σ → Bool × σ

/-- How a dialogue went: its end, the events in order, and the world after them. -/
structure Outcome (C : Type) (R : C → Type) (σ α : Type) where
  result : Except Fault α
  events : List (Event C R)
  world : σ

/-- The outcome with an event in front. -/
def Outcome.after {σ : Type} (e : Event C R) (o : Outcome C R σ α) : Outcome C R σ α :=
  { o with events := e :: o.events }

/-- Plays a dialogue against a world. -/
def run {σ : Type} (w : World C R σ) : Dialog C R α → σ → Outcome C R σ α
  | done a, s => ⟨.ok a, [], s⟩
  | fail f, s => ⟨.error f, [], s⟩
  | log r next, s => (next.run w s).after (.logged r)
  | sleep d next, s =>
    let (interrupted, s') := w.sleep d s
    ((next interrupted).run w s').after (.slept d interrupted)
  | call c next, s =>
    let (r, s') := w.call c s
    ((next r).run w s').after (.called c r)
  | spawn c next, s =>
    let ((held, r), s') := w.spawn c s
    ((next held r).run w s').after (.spawned c held r)

/-- The outcome of a sequence, from that of its first part and a way to play the second. -/
def Outcome.andThen {σ : Type} (o : Outcome C R σ α) (k : α → σ → Outcome C R σ β) :
    Outcome C R σ β :=
  match o.result with
  | .ok a => { k a o.world with events := o.events ++ (k a o.world).events }
  | .error f => ⟨.error f, o.events, o.world⟩

theorem Outcome.after_andThen {σ : Type} (e : Event C R) (o : Outcome C R σ α)
    (k : α → σ → Outcome C R σ β) : (o.after e).andThen k = (o.andThen k).after e := by
  unfold andThen after
  split <;> simp_all

/-- **A sequence runs as its parts do.** -/
theorem run_bind {σ : Type} (w : World C R σ) (d : Dialog C R α) (k : α → Dialog C R β) (s : σ) :
    (d.bind k).run w s = (d.run w s).andThen fun a s' => (k a).run w s' := by
  induction d generalizing s with
  | done a => simp [run, Outcome.andThen]
  | fail f => simp [bind, run, Outcome.andThen]
  | log r next ih => simp only [bind, run, ih, Outcome.after_andThen]
  | sleep d next ih => simp only [bind, run, ih, Outcome.after_andThen]
  | call c next ih => simp only [bind, run, ih, Outcome.after_andThen]
  | spawn c next ih => simp only [bind, run, ih, Outcome.after_andThen]

end Dialog
end DeviceSampling
