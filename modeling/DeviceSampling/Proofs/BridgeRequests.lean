/-
# How a request of the bridge ends

A request of the bridge is one process on the host.  Whatever becomes of the process, the caller
gets either what it left or one kind of fault: a process that ran out of time, that the system did
not start, or that did not succeed although success was asked for, all make the device unreachable.

A copy does one thing before: it makes the directory above its place on the host.  This is not a
matter of the bridge, and if the host does not make it the fault is passed on as it is, whichever it
is.

* `Request.words`, `Request.checked`, `Request.directory?`: what a request is about;
* `perform_eq`: a request is its directory, if it has one, and then one process;
* `conclude_ends`: what is made of a process that ends as processes do;
* `FileTree.makeDirectories_ne_unreachable`: the files never say that the device is unreachable;
* `request_ends`: **a request ends with what its process left or as unreachable, unless its directory
  cannot be made;**
* `pull_throughFile`: a copy whose fault is another one.
-/
import DeviceSampling.Proofs.RecordEnds

namespace DeviceSampling

open Dialog CommandLine

/-! ## 1. Requests -/

namespace Adb

/-- The words of a request after those that name the bridge and its device. -/
def Request.words : Request → List String
  | .run arguments _ _ => arguments
  | .shell command _ _ _ | .execute command _ => ["shell", command]
  | .pull source destination _ _ => ["pull", source, destination.text]

/-- Whether success is asked for. -/
def Request.checked : Request → Bool
  | .run _ _ check | .shell _ _ _ check | .pull _ _ _ check => check
  | .execute _ _ => false

/-- The directory that a request makes first. -/
def Request.directory? : Request → Option HostPath
  | .pull _ destination _ _ => some destination.parent
  | .run .. | .shell .. | .execute .. => none

/-- The time limit in milliseconds that a request brings along. -/
def Request.milliseconds? : Request → Option Int
  | .shell _ _ milliseconds _ => milliseconds
  | .run .. | .execute .. | .pull .. => none

/-- The process of a request, and what is made of its end. -/
def ask (a : Adb) (q : Request) (limit : Option Binary64) : Host AdbResult :=
  (a.announce q.words).bind fun _ =>
    (Host.runProcess (a.process none q.words limit)).bind fun outcome =>
      ofExcept (a.conclude (a.process none q.words limit) q.checked outcome)

variable {a : Adb} {q : Request}

/-- A time limit that can be made a double is one that can be asked for. -/
theorem exists_requested (timeout : Option Binary64) (milliseconds : Option Int)
    (h : ∀ n, milliseconds = some n → Convertible (.int n)) :
    ∃ t, requested timeout milliseconds = .ok t := by
  cases milliseconds with
  | none => exact ⟨timeout, rfl⟩
  | some n =>
    obtain ⟨x, hx⟩ := h n rfl
    have hn : ofMilliseconds n = .ok (x.divNat 1000) := by
      have hx' : Binary64.ofInt? n = some x := hx
      unfold ofMilliseconds
      rw [hx']
    refine ⟨some (x.divNat 1000), ?_⟩
    rw [requested, hn]
    rfl

/-- **A request is its directory, if it has one, and then one process.** -/
theorem perform_eq (ha : ∀ t, a.timeout = some t → Convertible t)
    (hq : ∀ n, q.milliseconds? = some n → Convertible (.int n)) :
    ∃ limit, q.perform a =
      match q.directory? with
      | none => a.ask q limit
      | some path => (Host.makeDirectories path).bind fun _ => a.ask q limit := by
  cases q with
  | run arguments timeout check =>
    obtain ⟨limit, hl⟩ := exists_limit ha timeout
    exact ⟨limit, run_of_limit hl⟩
  | shell command timeout milliseconds check =>
    obtain ⟨t, ht⟩ := exists_requested timeout milliseconds hq
    obtain ⟨limit, hl⟩ := exists_limit ha t
    have hshell : (Request.shell command timeout milliseconds check).perform a =
        (ofExcept (requested timeout milliseconds)).bind fun t => a.shell command t check := rfl
    refine ⟨limit, ?_⟩
    rw [hshell, ht]
    exact run_of_limit hl
  | execute command timeout =>
    obtain ⟨limit, hl⟩ := exists_limit ha timeout
    exact ⟨limit, run_of_limit hl⟩
  | pull source destination timeout check =>
    obtain ⟨limit, hl⟩ := exists_limit ha timeout
    refine ⟨limit, ?_⟩
    simp only [Request.perform, Adb.pull, run_of_limit hl]
    rfl

/-! ## 2. The end of a process -/

/-- **What is made of a process that ends as processes do.** -/
theorem conclude_ends (call : ProcessCall) (check : Bool) {outcome : ProcessOutcome}
    (h : Ends outcome) :
    (∃ left, outcome = .exited left ∧ (check = true → left.code = 0) ∧
      a.conclude call check outcome =
        .ok ⟨call.arguments, left.output, left.errors, left.code⟩) ∨
    ((∀ left, outcome = .exited left → check = true ∧ left.code ≠ 0) ∧
      ∃ message, a.conclude call check outcome = .error (.unreachable message)) := by
  cases h with
  | exited left =>
    by_cases hfails : check = true ∧ left.code ≠ 0
    · refine Or.inr ⟨fun left' h => ?_, _, if_pos (by simpa using hfails)⟩
      cases h
      exact hfails
    · refine Or.inl ⟨left, rfl, ?_, if_neg (by simpa using hfails)⟩
      intro hcheck
      exact not_not.1 fun hcode => hfails ⟨hcheck, hcode⟩
  | timedOut | refused | osFault | timeFault =>
    exact Or.inr ⟨fun _ h => (nomatch h), _, rfl⟩

end Adb

/-! ## 3. The files of the host -/

namespace FileTree

theorem makeDirectory_ne_unreachable {t : FileTree} {p : HostPath} {fault : Fault}
    (h : t.makeDirectory p = .error fault) (message : String) : fault ≠ .unreachable message := by
  unfold makeDirectory at h
  split at h <;> cases h <;> exact Fault.noConfusion

theorem makeUpTo_ne_unreachable {t : FileTree} {root : String} {names : List String}
    {fault : Fault} (h : t.makeUpTo root names = .error fault) (message : String) :
    fault ≠ .unreachable message := by
  induction names generalizing fault with
  | nil => exact makeDirectory_ne_unreachable h message
  | cons name outer ih =>
    simp only [makeUpTo] at h
    split at h
    · split at h
      · exact makeDirectory_ne_unreachable h message
      · next houter =>
        cases h
        exact ih houter
    · exact makeDirectory_ne_unreachable h message

/-- **The files never say that the device is unreachable.** -/
theorem makeDirectories_ne_unreachable {t : FileTree} {p : HostPath} {fault : Fault}
    (h : t.makeDirectories p = .error fault) (message : String) : fault ≠ .unreachable message :=
  makeUpTo_ne_unreachable h message

end FileTree

/-- **A host with files:** its processes end as processes do, and its files say which directories
can be made. -/
structure HasFiles {σ : Type} (w : World HostCall HostAnswer σ) (files : σ → FileTree) : Prop where
  processes : ∀ c s, Ends (w.call (.process c) s).1
  directories : ∀ path s,
    (w.call (.makeDirectories path) s).1 = ((files s).makeDirectories path).map fun _ => ()

/-! ## 4. Requests on a host -/

/-- The processes that were run, each with its end. -/
def processes (es : List HostDeed) : List (ProcessCall × ProcessOutcome) := es.filterMap process?

section Runs

variable {σ : Type} {w : World HostCall HostAnswer σ} {a : Adb} {q : Adb.Request}

/-- A process of a run ends as the host says. -/
theorem exists_call_of_mem_processes {α : Type} {d : Host α} {s : σ} {call : ProcessCall}
    {outcome : ProcessOutcome} (h : (call, outcome) ∈ processes (d.run w s).events) :
    ∃ s', (w.call (.process call) s').1 = outcome := by
  obtain ⟨e, he, hp⟩ := List.mem_filterMap.1 h
  rw [process?_eq_some.1 hp] at he
  exact exists_call_of_called he

/-- A request goes on after its directory if that could be made. -/
theorem run_makeDirectories_bind {α : Type} {path : HostPath} {answer : Except Fault Unit} {s : σ}
    (h : (w.call (.makeDirectories path) s).1 = answer) (k : Unit → Host α) :
    ((Host.makeDirectories path).bind k).run w s =
      (((ofExcept answer).bind k).run w (w.call (.makeDirectories path) s).2).after
        (.called (.makeDirectories path) answer) := by
  subst h
  rfl

/-- One process is run, and what is made of its end is the result. -/
theorem run_ask (limit : Option Binary64) (s : σ) :
    ((a.ask q limit).run w s).result = a.conclude (a.process none q.words limit) q.checked
        (w.call (.process (a.process none q.words limit)) s).1 ∧
      processes ((a.ask q limit).run w s).events =
        [(a.process none q.words limit, (w.call (.process (a.process none q.words limit)) s).1)] := by
  have hrun : (a.ask q limit).run w s =
      (((ofExcept (a.conclude (a.process none q.words limit) q.checked
          (w.call (.process (a.process none q.words limit)) s).1)).run w
        (w.call (.process (a.process none q.words limit)) s).2).after
          (.called (.process (a.process none q.words limit))
            (w.call (.process (a.process none q.words limit)) s).1)).after
        (.logged ⟨.debug, .controller, "adb: " ++ Adb.shownLine (a.base ++ q.words)⟩) := rfl
  rw [hrun]
  cases a.conclude (a.process none q.words limit) q.checked
      (w.call (.process (a.process none q.words limit)) s).1 with
  | ok r => exact ⟨rfl, rfl⟩
  | error fault => exact ⟨rfl, rfl⟩

/-- **How a request ends** on a host whose processes end as processes do.  If a directory has to be
made and the host does not make it, its fault is passed on and no process is run; a fault of files is
never that the device is unreachable.  Else one process is run.  The request returns exactly if the
process was run to its end and succeeded, or success was not asked for; then it returns what the
process left.  In all other cases the device is unreachable. -/
theorem request_ends (hw : ∀ c s, Ends (w.call (.process c) s).1)
    (ha : ∀ t, a.timeout = some t → Convertible t)
    (hq : ∀ n, q.milliseconds? = some n → Convertible (.int n)) (s : σ) :
    (∀ path fault, q.directory? = some path →
      (w.call (.makeDirectories path) s).1 = Except.error fault →
      ((q.perform a).run w s).result = .error fault ∧
        processes ((q.perform a).run w s).events = [] ∧
        ∀ files : FileTree, files.makeDirectories path = .error fault →
          ∀ message, fault ≠ .unreachable message) ∧
    ((∀ path, q.directory? = some path → (w.call (.makeDirectories path) s).1 = Except.ok ()) →
      ∃ limit outcome,
        processes ((q.perform a).run w s).events = [(a.process none q.words limit, outcome)] ∧
        (∀ r, ((q.perform a).run w s).result = .ok r ↔
          ∃ left, outcome = .exited left ∧ (q.checked = true → left.code = 0) ∧
            r = ⟨a.base ++ q.words, left.output, left.errors, left.code⟩) ∧
        ((∃ r, ((q.perform a).run w s).result = .ok r) ∨
          ∃ message, ((q.perform a).run w s).result = .error (.unreachable message))) := by
  obtain ⟨limit, hperform⟩ := Adb.perform_eq ha hq
  constructor
  · intro path fault hpath hanswer
    rw [hpath] at hperform
    rw [hperform, run_makeDirectories_bind hanswer]
    exact ⟨rfl, rfl, fun files => FileTree.makeDirectories_ne_unreachable⟩
  · intro hmade
    -- the process is run in the state after the directory, if there is one
    have hask : ∃ s', ((q.perform a).run w s).result = ((a.ask q limit).run w s').result ∧
        processes ((q.perform a).run w s).events =
          processes ((a.ask q limit).run w s').events := by
      cases hpath : q.directory? with
      | none =>
        rw [hpath] at hperform
        exact ⟨s, by rw [hperform], by rw [hperform]⟩
      | some path =>
        rw [hpath] at hperform
        rw [hperform, run_makeDirectories_bind (hmade path hpath)]
        exact ⟨_, rfl, rfl⟩
    obtain ⟨s', hresult, hprocesses⟩ := hask
    obtain ⟨hend, hone⟩ := run_ask (w := w) (a := a) (q := q) limit s'
    rw [hresult, hprocesses, hone, hend]
    refine ⟨limit, _, rfl, ?_⟩
    rcases a.conclude_ends (a.process none q.words limit) q.checked
      (hw (a.process none q.words limit) s') with
      ⟨left, hleft, hcode, hok⟩ | ⟨hnot, message, herror⟩
    · rw [hok, hleft]
      refine ⟨fun r => ⟨?_, ?_⟩, Or.inl ⟨_, rfl⟩⟩
      · intro h
        cases h
        exact ⟨left, rfl, hcode, rfl⟩
      · rintro ⟨left', h, -, rfl⟩
        cases h
        rfl
    · rw [herror]
      refine ⟨fun r => ⟨fun h => (nomatch h), ?_⟩, Or.inr ⟨message, rfl⟩⟩
      rintro ⟨left, hleft, hcode, -⟩
      obtain ⟨hcheck, hfails⟩ := hnot left hleft
      exact absurd (hcode hcheck) hfails

end Runs

/-- A host whose state is its files; its processes all end in one way. -/
def filingHost (outcome : ProcessOutcome) : World HostCall HostAnswer FileTree where
  call
    | .shell _, t => (Except.ok {}, t)
    | .process _, t => (outcome, t)
    | .makeDirectories path, t =>
      match t.makeDirectories path with
      | .ok t' => (Except.ok (), t')
      | .error fault => (Except.error fault, t)
    | .print _, t => ((), t)
  spawn
    | .shell _, t => ((false, Except.ok {}), t)
    | .process _, t => ((false, outcome), t)
    | .makeDirectories _, t => ((false, Except.ok ()), t)
    | .print _, t => ((false, ()), t)
  sleep _ t := (false, t)

theorem hasFiles_filingHost {outcome : ProcessOutcome} (h : Ends outcome) :
    HasFiles (filingHost outcome) id := by
  refine ⟨fun _ _ => h, fun path t => ?_⟩
  simp only [filingHost, id]
  cases t.makeDirectories path with
  | ok t' => rfl
  | error fault => rfl

/-- A copy into a directory that is not there yet, and whose success is asked for. -/
def checkedCopy : Adb.Request := .pull "/data/a.data" (HostPath.ofText "out/a.data") none true

/-- A copy that the bridge refuses: its directory is made, and the device is unreachable. -/
theorem request_ends_refusedCopy :
    HasFiles (filingHost (.exited { code := 1 })) id ∧
      (∀ t, ({} : Adb).timeout = some t → Convertible t) ∧
      (∀ n, checkedCopy.milliseconds? = some n → Convertible (.int n)) ∧
      (∀ path, checkedCopy.directory? = some path →
        ((filingHost (.exited { code := 1 })).call (.makeDirectories path) {}).1 = Except.ok ()) ∧
      ∃ message, ((checkedCopy.perform {}).run (filingHost (.exited { code := 1 })) {}).result =
        .error (.unreachable message) := by
  have hfiles : HasFiles (filingHost (.exited { code := 1 })) id := hasFiles_filingHost (.exited _)
  have hlimit : ∀ n, checkedCopy.milliseconds? = some n → Convertible (.int n) := by
    intro n hn
    cases hn
  have hmade : ∀ path, checkedCopy.directory? = some path →
      ((filingHost (.exited { code := 1 })).call (.makeDirectories path) {}).1 = Except.ok () := by
    intro path hpath
    obtain rfl := Option.some.inj hpath
    rfl
  obtain ⟨limit, outcome, hprocesses, hreturns, hends⟩ :=
    (request_ends hfiles.processes convertible_default hlimit {}).2 hmade
  refine ⟨hfiles, convertible_default, hlimit, hmade, ?_⟩
  rcases hends with ⟨r, hr⟩ | hunreachable
  · obtain ⟨left, rfl, hcode, -⟩ := (hreturns r).1 hr
    obtain ⟨t, ht⟩ := exists_call_of_mem_processes (hprocesses ▸ List.mem_singleton_self _)
    cases ht
    exact absurd (hcode rfl) (by decide)
  · exact hunreachable

/-- **A copy into a directory below a file has another fault.**  The host is as usual, and still the
request neither returns nor says that the device is unreachable. -/
theorem pull_throughFile :
    HasFiles (filingHost (.exited {})) id ∧
      (∀ t, ({} : Adb).timeout = some t → Convertible t) ∧
      ((checkedCopy.perform {}).run (filingHost (.exited {})) ⟨[(["out"], .file [])]⟩).result =
        .error (.fileExists "out") ∧
      (¬ ∃ r, ((checkedCopy.perform {}).run (filingHost (.exited {}))
        ⟨[(["out"], .file [])]⟩).result = .ok r) ∧
      ¬ ∃ message, ((checkedCopy.perform {}).run (filingHost (.exited {}))
        ⟨[(["out"], .file [])]⟩).result = .error (.unreachable message) := by
  have hresult : ((checkedCopy.perform {}).run (filingHost (.exited {}))
      ⟨[(["out"], .file [])]⟩).result = .error (.fileExists "out") := by decide +kernel
  refine ⟨hasFiles_filingHost (.exited _), convertible_default, hresult, ?_, ?_⟩
  · rintro ⟨r, hr⟩
    rw [hresult] at hr
    cases hr
  · rintro ⟨message, hm⟩
    rw [hresult] at hm
    cases hm

end DeviceSampling
