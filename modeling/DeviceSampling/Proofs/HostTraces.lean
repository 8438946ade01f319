/-
# Sessions on a host

A session knows its device only by commands and their answers.  The host carries them out: each
becomes one call of a device that is given, or one process of the bridge.  So the deeds of the
host tell those of the session, and what is known of every session is known of its runs on a
host.

* `Lowered`, `mayGo_lower`: a dialogue with its calls carried out below goes as the dialogue does,
  with the deeds that served it in place of its calls;
* `Device.Served`, `Device.Launched`: what the host sees of a command;
* `Device.Carried`, `carryOut_mayGo`: **a session on a host goes as the session does**;
* `Device.Shows`, `Carried.shows`: if no time limit is beyond the doubles, the deeds of the host
  are those of the session, one by one;
* `printed`, `calls`: what is printed, and all that is asked of the host;
* `Device.Steady`: a device whose commands return or do not reach it.
-/
import Mathlib.Data.List.Forall2
import DeviceSampling.CommandLine.Run
import DeviceSampling.Proofs.CheckPolls

namespace DeviceSampling

/-! ## 1. Calls carried out below -/

namespace Dialog

variable {C D : Type} {R : C → Type} {S : D → Type} {α : Type}
variable {serves : (c : C) → R c → List (Event D S) → Prop}
variable {starts : (c : C) → Bool → R c → List (Event D S) → Prop}

/-- **Deeds carried out below:** sleeps stay, and in place of each call stand the deeds that served
it. -/
inductive Lowered (serves : (c : C) → R c → List (Event D S) → Prop)
    (starts : (c : C) → Bool → R c → List (Event D S) → Prop) :
    List (Event C R) → List (Event D S) → Prop
  | nil : Lowered serves starts [] []
  | slept {seconds b es fs} : Lowered serves starts es fs →
      Lowered serves starts (.slept seconds b :: es) (.slept seconds b :: fs)
  | called {c a front es fs} : serves c a front → Lowered serves starts es fs →
      Lowered serves starts (.called c a :: es) (front ++ fs)
  | spawned {c held a front es fs} : starts c held a front → Lowered serves starts es fs →
      Lowered serves starts (.spawned c held a :: es) (front ++ fs)

/-- What is carried out of a sequence is what is carried out of its parts. -/
theorem Lowered.of_append {es' : List (Event C R)} {fs : List (Event D S)} :
    ∀ {es : List (Event C R)}, Lowered serves starts (es ++ es') fs →
      ∃ front back, fs = front ++ back ∧ Lowered serves starts es front ∧
        Lowered serves starts es' back
  | [], h => ⟨[], fs, rfl, .nil, h⟩
  | e :: rest, h => by
    cases h with
    | slept h =>
      obtain ⟨front, back, rfl, hfront, hback⟩ := of_append h
      exact ⟨_ :: front, back, rfl, .slept hfront, hback⟩
    | @called c a served _ fs hserves h =>
      obtain ⟨front, back, rfl, hfront, hback⟩ := of_append h
      exact ⟨served ++ front, back, (List.append_assoc _ _ _).symm, .called hserves hfront, hback⟩
    | @spawned c held a started _ fs hstarts h =>
      obtain ⟨front, back, rfl, hfront, hback⟩ := of_append h
      exact ⟨started ++ front, back, (List.append_assoc _ _ _).symm, .spawned hstarts hfront, hback⟩

/-- A call that is carried out is served by some of the deeds. -/
theorem Lowered.exists_served {c : C} {a : R c} {es : List (Event C R)} {fs : List (Event D S)}
    (h : Lowered serves starts es fs) (hc : .called c a ∈ es) :
    ∃ front, serves c a front ∧ front ⊆ fs := by
  induction h with
  | nil => exact absurd hc List.not_mem_nil
  | slept _ ih =>
    rcases List.mem_cons.1 hc with hc | hc
    · cases hc
    · obtain ⟨front, hs, hsub⟩ := ih hc
      exact ⟨front, hs, List.subset_cons_of_subset _ hsub⟩
  | @called c' a' served es fs hserves _ ih =>
    rcases List.mem_cons.1 hc with hc | hc
    · cases hc
      exact ⟨served, hserves, List.subset_append_left served fs⟩
    · obtain ⟨front, hs, hsub⟩ := ih hc
      exact ⟨front, hs, List.subset_append_of_subset_right served hsub⟩
  | @spawned _ _ _ started es fs _ _ ih =>
    rcases List.mem_cons.1 hc with hc | hc
    · cases hc
    · obtain ⟨front, hs, hsub⟩ := ih hc
      exact ⟨front, hs, List.subset_append_of_subset_right started hsub⟩

/-- A sleep is carried out as it is. -/
theorem Lowered.slept_mem {seconds : Binary64} {b : Bool} {es : List (Event C R)}
    {fs : List (Event D S)} (h : Lowered serves starts es fs) (hs : .slept seconds b ∈ es) :
    .slept seconds b ∈ fs := by
  induction h with
  | nil => exact absurd hs List.not_mem_nil
  | slept _ ih =>
    rcases List.mem_cons.1 hs with hs | hs
    · cases hs
      exact List.mem_cons_self
    · exact List.mem_cons_of_mem _ (ih hs)
  | called _ _ ih =>
    rcases List.mem_cons.1 hs with hs | hs
    · cases hs
    · exact List.mem_append_right _ (ih hs)
  | spawned _ _ ih =>
    rcases List.mem_cons.1 hs with hs | hs
    · cases hs
    · exact List.mem_append_right _ (ih hs)

/-- **A dialogue carried out below goes as the dialogue does,** if each call is served by deeds and
then answered. -/
theorem mayGo_lower {onCall : (c : C) → Dialog D S (R c)}
    {onSpawn : (c : C) → Dialog D S (Bool × R c)}
    (hcall : ∀ {c fs r}, (onCall c).MayGo fs r → ∃ a, r = .ok a ∧ serves c a fs)
    (hspawn : ∀ {c fs r}, (onSpawn c).MayGo fs r → ∃ p, r = .ok p ∧ starts c p.1 p.2 fs)
    {d : Dialog C R α} {fs : List (Event D S)} {r : Except Fault α}
    (h : (d.lower onCall onSpawn).MayGo fs r) :
    ∃ es, d.MayGo es r ∧ Lowered serves starts es fs := by
  induction d generalizing fs with
  | done a =>
    obtain ⟨rfl, rfl⟩ := h
    exact ⟨[], ⟨rfl, rfl⟩, .nil⟩
  | fail f =>
    obtain ⟨rfl, rfl⟩ := h
    exact ⟨[], ⟨rfl, rfl⟩, .nil⟩
  | log _ next ih => exact ih h
  | sleep seconds next ih =>
    obtain ⟨b, rest, rfl, h⟩ := h
    obtain ⟨es, hes, hrest⟩ := ih b h
    exact ⟨_, ⟨b, es, rfl, hes⟩, .slept hrest⟩
  | call c next ih =>
    rcases mayGo_bind.1 h with ⟨a, front, rest, rfl, hc, hk⟩ | ⟨f, rfl, hc⟩
    · obtain ⟨a', ha, hserves⟩ := hcall hc
      obtain rfl := Except.ok.inj ha
      obtain ⟨es, hes, hrest⟩ := ih a hk
      exact ⟨_, ⟨a, es, rfl, hes⟩, .called hserves hrest⟩
    · obtain ⟨a', ha, -⟩ := hcall hc
      cases ha
  | spawn c next ih =>
    rcases mayGo_bind.1 h with ⟨p, front, rest, rfl, hc, hk⟩ | ⟨f, rfl, hc⟩
    · obtain ⟨p', hp, hstarts⟩ := hspawn hc
      obtain rfl := Except.ok.inj hp
      obtain ⟨es, hes, hrest⟩ := ih p.1 p.2 hk
      exact ⟨_, ⟨p.1, p.2, es, rfl, hes⟩, .spawned hstarts hrest⟩
    · obtain ⟨p', hp, -⟩ := hspawn hc
      cases hp

end Dialog

open Dialog Session

/-- An event of a host that is more than a log record. -/
abbrev HostDeed : Type := Event HostCall HostAnswer

namespace CommandLine

/-! ## 2. One command -/

namespace Device

/-- The process of the bridge for a command. -/
def shellProcess (adb : Adb) (c : ShellCall) (limit : Option Binary64) : ProcessCall :=
  adb.process (some c.purpose) ["shell", c.command] limit

/-- The answer to a command, from the end of its process. -/
def shellAnswer (adb : Adb) (c : ShellCall) (limit : Option Binary64) (outcome : ProcessOutcome) :
    Except Fault ShellResult :=
  (adb.conclude (shellProcess adb c limit) false outcome).map AdbResult.toShell

/-- **A command with its answer, as the host sees it:** a call of a given device, or a process of
the bridge. -/
inductive Served : Device → ShellCall → Except Fault ShellResult → HostDeed → Prop
  | given {c a} : Served .given c a (.called (.shell c) a)
  | bridged {adb c limit outcome} : adb.limit c.timeout = .ok limit →
      Served (.bridged adb) c (shellAnswer adb c limit outcome)
        (.called (.process (shellProcess adb c limit)) outcome)

/-- **A command of a worker, as the host sees it.** -/
inductive Launched : Device → ShellCall → Bool → Except Fault ShellResult → HostDeed → Prop
  | given {c held a} : Launched .given c held a (.spawned (.shell c) held a)
  | bridged {adb c limit held outcome} : adb.limit c.timeout = .ok limit →
      Launched (.bridged adb) c held (shellAnswer adb c limit outcome)
        (.spawned (.process (shellProcess adb c limit)) held outcome)

/-- A command whose time limit is beyond the doubles: it fails before the host sees it. -/
def Refuses (device : Device) (c : ShellCall) (fault : Fault) : Prop :=
  match device with
  | .given => False
  | .bridged adb => adb.limit c.timeout = .error fault

/-- The deeds of the host for a command with its answer. -/
inductive Serves (device : Device) (c : ShellCall) (a : Except Fault ShellResult) :
    List HostDeed → Prop
  | served {e} : device.Served c a e → Serves device c a [e]
  | refused {fault} : device.Refuses c fault → a = .error fault → Serves device c a []

/-- The deeds of the host for a command of a worker with its answer. -/
inductive Starts (device : Device) (c : ShellCall) (held : Bool) (a : Except Fault ShellResult) :
    List HostDeed → Prop
  | launched {e} : device.Launched c held a e → Starts device c held a [e]
  | refused {fault} : device.Refuses c fault → a = .error fault → Starts device c held a []

/-- **The deeds of a session as the host sees them.** -/
def Carried (device : Device) : List Deed → List HostDeed → Prop :=
  Lowered device.Serves device.Starts

/-- Carries one command out. -/
def serve (device : Device) (c : ShellCall) : Host (Except Fault ShellResult) :=
  match device with
  | .given => Dialog.call (.shell c) fun (answer : Except Fault ShellResult) => .done answer
  | .bridged adb => adb.serve c

/-- Carries one command of a worker out. -/
def serveWorker (device : Device) (c : ShellCall) : Host (Bool × Except Fault ShellResult) :=
  match device with
  | .given => Dialog.spawn (.shell c) fun held (answer : Except Fault ShellResult) =>
    .done (held, answer)
  | .bridged adb => adb.serveWorker c

theorem carryOut_eq {α : Type} (device : Device) (d : Session α) :
    device.carryOut d = d.lower device.serve device.serveWorker := by
  cases device <;> rfl

section Bridged

variable {adb : Adb} {c : ShellCall}

/-- A bridge that has no time limit for a command runs nothing. -/
theorem serve_of_no_limit {fault : Fault} (h : adb.limit c.timeout = .error fault) :
    (bridged adb).serve c =
      (adb.announce ["shell", c.command]).bind fun _ => .done (.error fault) := by
  simp only [serve, Adb.serve, h]
  rfl

/-- A bridge runs one process for a command. -/
theorem serve_of_limit {limit : Option Binary64} (h : adb.limit c.timeout = .ok limit) :
    (bridged adb).serve c = (adb.announce ["shell", c.command]).bind fun _ =>
      (Host.runProcess (shellProcess adb c limit)).bind fun outcome =>
        .done (shellAnswer adb c limit outcome) := by
  simp only [serve, Adb.serve, h]
  rfl

theorem serveWorker_of_no_limit {fault : Fault} (h : adb.limit c.timeout = .error fault) :
    (bridged adb).serveWorker c =
      (adb.announce ["shell", c.command]).bind fun _ => .done (false, .error fault) := by
  simp only [serveWorker, Adb.serveWorker, h]
  rfl

theorem serveWorker_of_limit {limit : Option Binary64} (h : adb.limit c.timeout = .ok limit) :
    (bridged adb).serveWorker c = (adb.announce ["shell", c.command]).bind fun _ =>
      Dialog.spawn (.process (shellProcess adb c limit)) fun held (outcome : ProcessOutcome) =>
        .done (held, shellAnswer adb c limit outcome) := by
  simp only [serveWorker, Adb.serveWorker, h]
  rfl

end Bridged

end Device

variable {device : Device}

/-- A command is served and then answered. -/
theorem serve_mayGo {c : ShellCall} {fs : List HostDeed}
    {r : Except Fault (Except Fault ShellResult)} (h : (device.serve c).MayGo fs r) :
    ∃ a, r = .ok a ∧ device.Serves c a fs := by
  cases device with
  | given =>
    obtain ⟨a, rest, rfl, rfl, rfl⟩ := h
    exact ⟨a, rfl, .served .given⟩
  | bridged adb =>
    cases hl : adb.limit c.timeout with
    | error fault =>
      rw [Device.serve_of_no_limit hl] at h
      obtain ⟨rfl, rfl⟩ := h
      exact ⟨_, rfl, .refused hl rfl⟩
    | ok limit =>
      rw [Device.serve_of_limit hl] at h
      obtain ⟨outcome, rest, rfl, rfl, rfl⟩ := h
      exact ⟨_, rfl, .served (.bridged hl)⟩

/-- A command of a worker is started and then answered. -/
theorem serveWorker_mayGo {c : ShellCall} {fs : List HostDeed}
    {r : Except Fault (Bool × Except Fault ShellResult)} (h : (device.serveWorker c).MayGo fs r) :
    ∃ p, r = .ok p ∧ device.Starts c p.1 p.2 fs := by
  cases device with
  | given =>
    obtain ⟨held, a, rest, rfl, rfl, rfl⟩ := h
    exact ⟨_, rfl, .launched .given⟩
  | bridged adb =>
    cases hl : adb.limit c.timeout with
    | error fault =>
      rw [Device.serveWorker_of_no_limit hl] at h
      obtain ⟨rfl, rfl⟩ := h
      exact ⟨_, rfl, .refused hl rfl⟩
    | ok limit =>
      rw [Device.serveWorker_of_limit hl] at h
      obtain ⟨held, outcome, rest, rfl, rfl, rfl⟩ := h
      exact ⟨_, rfl, .launched (.bridged hl)⟩

/-! ## 3. Sessions -/

/-- **A session on a host goes as the session does.** -/
theorem carryOut_mayGo {α : Type} {d : Session α} {fs : List HostDeed} {r : Except Fault α}
    (h : (device.carryOut d).MayGo fs r) : ∃ es, d.MayGo es r ∧ device.Carried es fs := by
  rw [device.carryOut_eq] at h
  exact mayGo_lower serve_mayGo serveWorker_mayGo h

/-- The run of a session on a host goes as the session does. -/
theorem exists_carried {σ α : Type} (w : World HostCall HostAnswer σ) (device : Device)
    (d : Session α) (s : σ) :
    ∃ es, d.MayGo es ((device.carryOut d).run w s).result ∧
      device.Carried es (deeds ((device.carryOut d).run w s).events) :=
  carryOut_mayGo (run_mayGo w (device.carryOut d) s)

/-! ## 4. Deeds one by one -/

namespace Device

/-- **A deed of a session and the deed of the host that it is.** -/
inductive Shows (device : Device) : Deed → HostDeed → Prop
  | slept {seconds b} : Shows device (.slept seconds b) (.slept seconds b)
  | called {c a e} : device.Served c a e → Shows device (.called c a) e
  | spawned {c held a e} : device.Launched c held a e → Shows device (.spawned c held a) e

/-- No command fails before the host sees it. -/
def Ready (device : Device) : Prop := ∀ c fault, ¬ device.Refuses c fault

theorem ready_given : Ready .given := fun _ _ h => h

/-- A bridge is ready if its own time limit is a double. -/
theorem ready_bridged {adb : Adb} {limit : Option Binary64} (h : adb.limit none = .ok limit) :
    Ready (.bridged adb) := by
  intro c fault hrefuses
  change adb.limit c.timeout = .error fault at hrefuses
  cases hc : c.timeout with
  | none =>
    rw [hc, h] at hrefuses
    cases hrefuses
  | some x =>
    -- a limit that was asked for is a double already
    have hlimit : adb.limit (some x) =
        if (Quantity.double x).isNonPositive then .ok none else .ok (some x) := rfl
    rw [hc, hlimit] at hrefuses
    split at hrefuses
    · cases hrefuses
    · cases hrefuses

/-- A bridge that is not ready refuses every command without a time limit of its own, because of its
number. -/
theorem ready_or_refuses (device : Device) :
    device.Ready ∨ ∀ c : ShellCall, c.timeout = none → device.Refuses c .integerTooLarge := by
  cases device with
  | given => exact Or.inl ready_given
  | bridged adb =>
    cases h : adb.limit none with
    | ok limit => exact Or.inl (ready_bridged h)
    | error fault =>
      refine Or.inr fun c hc => ?_
      have hfault : fault = .integerTooLarge := by
        unfold Adb.limit at h
        split at h
        · cases h
        · next q _ =>
          split at h
          · cases h
          · cases hq : q.toDouble? with
            | some x =>
              rw [Quantity.toDouble, hq] at h
              cases h
            | none =>
              rw [Quantity.toDouble, hq] at h
              cases h
              rfl
      change adb.limit c.timeout = .error .integerTooLarge
      rw [hc, h, hfault]

end Device

/-- **On a device that is ready, the deeds of the host are those of the session,** one by one. -/
theorem Device.Ready.shows (hd : device.Ready) {es : List Deed} {fs : List HostDeed}
    (h : device.Carried es fs) : List.Forall₂ device.Shows es fs := by
  unfold Device.Carried at h
  induction h with
  | nil => exact .nil
  | slept _ ih => exact .cons .slept ih
  | called hserves _ ih =>
    cases hserves with
    | served he => exact .cons (.called he) ih
    | refused hr => exact absurd hr (hd _ _)
  | spawned hstarts _ ih =>
    cases hstarts with
    | launched he => exact .cons (.spawned he) ih
    | refused hr => exact absurd hr (hd _ _)

/-! ## 5. What is printed, and what is asked -/

/-- The line of a deed, if it prints one. -/
def line? : HostDeed → Option String
  | .called (.print line) _ => some line
  | _ => none

/-- The lines that are printed, in order. -/
def printed (es : List HostDeed) : List String := es.filterMap line?

/-- Whether something is asked of the host: an event that is neither a log record nor a sleep. -/
def isCall : HostDeed → Bool
  | .called .. | .spawned .. => true
  | .logged _ | .slept .. => false

/-- **All that is asked of the host,** with the answers: commands, lines of output, directories and
copies. -/
def calls (es : List HostDeed) : List HostDeed := es.filter isCall

@[simp] theorem printed_append (es fs : List HostDeed) :
    printed (es ++ fs) = printed es ++ printed fs := List.filterMap_append

@[simp] theorem calls_append (es fs : List HostDeed) : calls (es ++ fs) = calls es ++ calls fs :=
  List.filter_append es fs

theorem printed_deeds (es : List HostDeed) : printed (deeds es) = printed es := by
  unfold printed deeds
  rw [List.filterMap_filter]
  congr 1
  funext e
  cases e <;> rfl

theorem calls_deeds (es : List HostDeed) : calls (deeds es) = calls es := by
  unfold calls deeds
  rw [List.filter_filter]
  congr 1
  funext e
  cases e <;> rfl

/-- A session prints nothing. -/
theorem printed_of_carried {es : List Deed} {fs : List HostDeed} (h : device.Carried es fs) :
    printed fs = [] := by
  unfold Device.Carried at h
  induction h with
  | nil => rfl
  | slept _ ih => exact ih
  | called hserves _ ih =>
    rw [printed_append, ih]
    cases hserves with
    | served he => cases he <;> rfl
    | refused => rfl
  | spawned hstarts _ ih =>
    rw [printed_append, ih]
    cases hstarts with
    | launched he => cases he <;> rfl
    | refused => rfl

/-! ## 6. Steady devices -/

/-- **A steady device:** a command of it gets a result, or does not reach it. -/
def Device.Steady {σ : Type} (device : Device) (w : World HostCall HostAnswer σ) : Prop :=
  ∀ c s a, ((device.serve c).run w s).result = .ok a → Foreseen a

section Steady

variable {σ α : Type} {w : World HostCall HostAnswer σ} {d : Host α} {s : σ}

/-- A command that is served in a run on a steady device has a foreseen answer. -/
theorem Device.Steady.foreseen (hw : device.Steady w) {es : List Deed}
    (h : device.Carried es (deeds (d.run w s).events)) {c : ShellCall}
    {a : Except Fault ShellResult} (hc : .called c a ∈ es) : Foreseen a := by
  obtain ⟨front, hserves, hsub⟩ := h.exists_served hc
  cases hserves with
  | @served e he =>
    have hmem := (mem_deeds.1 (hsub List.mem_cons_self)).1
    cases he with
    | given =>
      obtain ⟨s', rfl⟩ := exists_call_of_called hmem
      exact hw c s' _ rfl
    | @bridged adb _ limit outcome hl =>
      obtain ⟨s', rfl⟩ := exists_call_of_called hmem
      refine hw c s' _ ?_
      rw [Device.serve_of_limit hl]
      rfl
  | @refused fault hr ha =>
    cases device with
    | given => exact absurd hr id
    | bridged adb =>
      have hl : adb.limit c.timeout = .error fault := hr
      rw [ha]
      refine hw c s _ ?_
      rw [Device.serve_of_no_limit hl]
      rfl

/-- A session is undisturbed in a run on a steady device without interruptions. -/
theorem Device.Steady.undisturbed (hw : device.Steady w)
    (hsleep : ∀ seconds s, (w.sleep seconds s).1 = false) {es : List Deed}
    (h : device.Carried es (deeds (d.run w s).events)) : Undisturbed es := by
  refine ⟨fun c a hc => hw.foreseen h hc, fun seconds hs => ?_⟩
  obtain ⟨s', hs'⟩ := exists_sleep_of_slept (mem_deeds.1 (h.slept_mem hs)).1
  rw [hsleep] at hs'
  cases hs'

/-- A steady device is ready, if there is any state of the host. -/
theorem Device.Steady.ready (hw : device.Steady w) (s : σ) : device.Ready := by
  intro c fault hr
  rcases device.ready_or_refuses with hready | hrefuses
  · exact hready c fault hr
  · cases device with
    | given => exact hr
    | bridged adb =>
      have hl : adb.limit none = .error .integerTooLarge :=
        hrefuses ⟨.lookUp, "", none⟩ rfl
      have hforeseen : Foreseen (.error .integerTooLarge) := by
        refine hw ⟨.lookUp, "", none⟩ s _ ?_
        rw [Device.serve_of_no_limit hl]
        rfl
      obtain ⟨message, hmessage⟩ := hforeseen _ rfl
      cases hmessage

end Steady

end CommandLine
end DeviceSampling
