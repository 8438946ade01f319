/-
# Arguments arrive as they are

Record paths, destinations, process names and process ids come from outside, and a session puts
them into commands.  Each of them is one word of its command, whatever characters it has: it is
not expanded, does not become two words or none, and does not start another command.

* `moveCommand_eq_spell` and its siblings: the commands are spelled words;
* `Asks`: the words of the commands that an operation issues with what it is given;
* `asks_of_perform`: one operation;
* `commands_carryWords`: **every command, of any run, has the words that its operation asks for.**
-/
import Mathlib.Data.List.Forall2
import DeviceSampling.Proofs.CommandSafety
import DeviceSampling.Proofs.ShellWords

namespace DeviceSampling

open Shell

/-! ## 1. The commands are spelled words -/

/-- A text that is a word of a command without quotes. -/
def IsPlainWord (s : String) : Prop := s ≠ "" ∧ ∀ c ∈ s.toList, isSafe c = true

instance (s : String) : Decidable (IsPlainWord s) :=
  decidable_of_iff (s ≠ "" ∧ s.toList.all isSafe = true) (by rw [List.all_eq_true, IsPlainWord])

/-- A plain word is its own quotation. -/
theorem quoteWord_of_isPlainWord {s : String} (h : IsPlainWord s) : quoteWord s = s := by
  have hne : s.toList ≠ [] := fun he => h.1 (String.toList_eq_nil_iff.1 he)
  unfold quoteWord quoteChars
  rw [if_neg (fun he => hne (List.isEmpty_iff.1 he)), if_pos (List.all_eq_true.2 h.2),
    String.ofList_toList]

theorem spell_singleton (w : String) : spell [w] = quoteWord w := by
  simp [spell, spellChars, quoteWord, List.intercalate]

/-- The first of several words stands before a blank. -/
theorem spell_cons (w w' : String) (ws : List String) :
    spell (w :: w' :: ws) = quoteWord w ++ " " ++ spell (w' :: ws) := by
  apply String.toList_injective
  simp [spell, spellChars, quoteWord, List.intercalate]

theorem spell_cons_of_isPlainWord {w : String} (h : IsPlainWord w) (w' : String)
    (ws : List String) : spell (w :: w' :: ws) = w ++ " " ++ spell (w' :: ws) := by
  rw [spell_cons, quoteWord_of_isPlainWord h]

variable {config : SamplerConfig}

theorem moveCommand_eq_spell (destination : String) :
    config.moveCommand destination = spell ["mv", config.recordPath, destination] := by
  rw [spell_cons_of_isPlainWord (by decide), spell_cons, spell_singleton, ← String.append_assoc,
    ← String.append_assoc]
  rfl

theorem makeDirectoryCommand_eq_spell (path : String) :
    makeDirectoryCommand path = spell ["mkdir", "-p", path] := by
  rw [spell_cons_of_isPlainWord (by decide), spell_cons_of_isPlainWord (by decide),
    spell_singleton, ← String.append_assoc]
  rfl

theorem readCommand_eq_spell (path : String) : readCommand path = spell ["cat", path] := by
  rw [spell_cons_of_isPlainWord (by decide), spell_singleton]
  rfl

theorem lookUpCommand_eq_spell (process : String) :
    lookUpCommand process = spell ["pidof", process] := by
  rw [spell_cons_of_isPlainWord (by decide), spell_singleton]
  rfl

/-- The words of a report command. -/
def SamplerConfig.reportWords (config : SamplerConfig) (record pids : String) : List String :=
  [config.binary, "report", "-i", record, "--pids", SamplerConfig.joinedIds pids, "--sort",
    "pid,symbol", "-o", SamplerConfig.reportPath record]

/-- The binary is not quoted, so this one asks for a binary that needs no quotes. -/
theorem reportCommand_eq_spell (h : IsPlainWord config.binary) (record pids : String) :
    config.reportCommand record pids = spell (config.reportWords record pids) := by
  apply String.toList_injective
  rw [SamplerConfig.reportWords, spell_cons_of_isPlainWord h, spell_cons_of_isPlainWord (by decide),
    spell_cons_of_isPlainWord (by decide), spell_cons, spell_cons_of_isPlainWord (by decide),
    spell_cons, spell_cons_of_isPlainWord (by decide), spell_cons_of_isPlainWord (by decide),
    spell_cons_of_isPlainWord (by decide), spell_singleton]
  simp [SamplerConfig.reportCommand]

/-! ## 2. What an operation asks for -/

/-- Whether a command carries nothing that a caller of the operation gave as a value: it is about the
sampler alone. -/
def Purpose.isOwn : Purpose → Bool
  | .runningCheck | .interrupt | .start => true
  | _ => false

/-- **The words of the commands that an operation issues with what it is given,** in order, if
all goes well. -/
def Operation.asks (config : SamplerConfig) : Operation → List (List String)
  | .stopCollecting destination =>
    (if (directory destination).isEmpty then [] else [["mkdir", "-p", directory destination]]) ++
      [["mv", config.recordPath, destination]]
  | .processIds process => [["pidof", process]]
  | .report record processes _ =>
    processes.flatMap fun (_, pids) =>
      [config.reportWords record pids, ["cat", SamplerConfig.reportPath record]]
  | .startCollecting _ _ | .stopSampler | .isRunning => []

namespace Session

open Dialog

variable {record : String} {wanted : List String}

/-- The commands that carry what a caller gave. -/
def carriers (es : List Deed) : List Issued :=
  (commands es).filter fun i => !i.call.purpose.isOwn

/-- The shell reads a command as these words; a report command only if its binary needs no
quotes. -/
def ReadsAs (config : SamplerConfig) (i : Issued) (ws : List String) : Prop :=
  (i.call.purpose = .report → IsPlainWord config.binary) → argv i.call.command = some ws

/-- The commands that carry something read as the first of the words asked for, in order. -/
def Carries (config : SamplerConfig) (o : Operation) (es : List Deed) : Prop :=
  ∃ first, first <+: o.asks config ∧ List.Forall₂ (ReadsAs config) (carriers es) first

@[simp] theorem carriers_append (es fs : List Deed) :
    carriers (es ++ fs) = carriers es ++ carriers fs := by
  simp [carriers]

@[simp] theorem carriers_check (a : Except Fault ShellResult) (es : List Deed) :
    carriers (check config a :: es) = carriers es := rfl

@[simp] theorem carriers_interrupt (a : Except Fault ShellResult) (es : List Deed) :
    carriers (interrupt config a :: es) = carriers es := rfl

@[simp] theorem carriers_started {subcommand arguments : String} {timeout : Binary64} {held : Bool}
    (a : Except Fault ShellResult) (es : List Deed) :
    carriers (started config subcommand arguments timeout held a :: es) = carriers es := rfl

/-- A poll carries nothing. -/
theorem carriers_of_pollGoes {goal : Bool} {delay : Binary64} {left : Nat} {es : List Deed}
    {r : Except Fault Bool} (h : PollGoes (CheckRound config goal) delay left es r) :
    carriers es = [] := by
  unfold carriers
  rw [List.filter_eq_nil_iff]
  intro i hi
  have hc : i.call = _ := isCheck_of_pollGoes h i hi
  simp [hc, Purpose.isOwn]

theorem carriers_of_stops {es : List Deed} {r : Except Fault Bool} (h : Stops config es r) :
    carriers es = [] := by
  cases h with
  | notRunning _ _ => rfl
  | notTold _ _ => rfl
  | awaited _ _ hp => simpa using carriers_of_pollGoes hp

theorem carriers_of_clears {es : List Deed} {r : Except Fault Bool} (h : Clears config es r) :
    carriers es = [] := by
  cases h with
  | free _ => rfl
  | stopped _ hs => simpa using carriers_of_stops hs
  | failed _ => rfl

theorem carriers_of_starts {subcommand arguments : String} {es : List Deed}
    {r : Except Fault (Option Launch × Except Fault Bool)}
    (h : Starts config subcommand arguments es r) : carriers es = [] := by
  cases h with
  | notCleared hc _ => exact carriers_of_clears hc
  | noLimit hc _ => exact carriers_of_clears hc
  | launched hc _ hp => simp [carriers_of_clears hc, carriers_of_pollGoes hp]

/-! ## 3. The operations -/

/-- An operation that carries nothing carries it well. -/
theorem carries_of_nil {o : Operation} {es : List Deed} (h : carriers es = []) :
    Carries config o es := ⟨[], List.nil_prefix, h ▸ .nil⟩

/-- A command that spells words reads as them. -/
theorem readsAs_of_eq_spell {i : Issued} {ws : List String} (h : i.call.command = spell ws) :
    ReadsAs config i ws := by
  intro _
  rw [h, argv_spell]

theorem readsAs_makeDirectory (destination : String) (a : Except Fault ShellResult) :
    ReadsAs config ⟨⟨.makeDirectory, makeDirectoryCommand (directory destination), none⟩, a⟩
      ["mkdir", "-p", directory destination] :=
  readsAs_of_eq_spell (makeDirectoryCommand_eq_spell _)

theorem readsAs_move (destination : String) (a : Except Fault ShellResult) :
    ReadsAs config ⟨⟨.move, config.moveCommand destination, none⟩, a⟩
      ["mv", config.recordPath, destination] :=
  readsAs_of_eq_spell (moveCommand_eq_spell destination)

theorem readsAs_report (pids : String) (a : Except Fault ShellResult) :
    ReadsAs config ⟨⟨.report, config.reportCommand record pids, none⟩, a⟩
      (config.reportWords record pids) :=
  fun hbinary => readsAs_of_eq_spell (reportCommand_eq_spell (hbinary rfl) record pids) hbinary

theorem readsAs_readReport (a : Except Fault ShellResult) :
    ReadsAs config ⟨⟨.readReport, readCommand (SamplerConfig.reportPath record), none⟩, a⟩
      ["cat", SamplerConfig.reportPath record] :=
  readsAs_of_eq_spell (readCommand_eq_spell _)

theorem readsAs_lookUp (process : String) (a : Except Fault ShellResult) :
    ReadsAs config ⟨⟨.lookUp, lookUpCommand process, none⟩, a⟩ ["pidof", process] :=
  readsAs_of_eq_spell (lookUpCommand_eq_spell process)

theorem carries_of_collects {destination : String} {es : List Deed} {r : Except Fault Bool}
    (h : Collects config destination es r) : Carries config (.stopCollecting destination) es := by
  cases h with
  | notStopped hs _ => exact carries_of_nil (carriers_of_stops hs)
  | stopped hs hm =>
    simp only [Carries, Operation.asks]
    rw [carriers_append, carriers_of_stops hs, List.nil_append]
    cases hm with
    | @directly b hd =>
      rw [if_pos hd]
      exact ⟨_, List.prefix_rfl, .cons (readsAs_move destination b) .nil⟩
    | @notMade a _ hd _ _ =>
      rw [hd]
      exact ⟨_, List.prefix_append _ _, .cons (readsAs_makeDirectory destination a) .nil⟩
    | @made a b hd _ =>
      rw [hd]
      exact ⟨_, List.prefix_rfl, .cons (readsAs_makeDirectory destination a)
        (.cons (readsAs_move destination b) .nil)⟩

/-- A complete visit issues the two commands of its process. -/
theorem readsAs_visit (v : Visit) :
    List.Forall₂ (ReadsAs config) (carriers (v.deeds config record))
      [config.reportWords record v.pids, ["cat", SamplerConfig.reportPath record]] :=
  .cons (readsAs_report v.pids _) (.cons (readsAs_readReport _) .nil)

/-- Complete visits issue the commands of their processes, in order. -/
theorem readsAs_visits (visits : List Visit) :
    List.Forall₂ (ReadsAs config) (carriers (visits.flatMap (Visit.deeds config record)))
      ((Operation.report record (visits.map Visit.asked) wanted).asks config) := by
  induction visits with
  | nil => exact .nil
  | cons v visits ih =>
    rw [List.flatMap_cons, carriers_append]
    exact List.rel_append (readsAs_visit v) ih

/-- What ends a run issues the first of the commands of the next process, or none. -/
theorem readsAs_of_runEnds {gathered : Metrics} {processes : List (String × String)}
    {es : List Deed} {r : Except Fault RunReport}
    (h : RunEnds config record wanted gathered processes es r) :
    Carries config (.report record processes wanted) es := by
  have hwritten : ∀ {process pids : String} {rest : List (String × String)}
      {a : Except Fault ShellResult}, Carries config (.report record ((process, pids) :: rest) wanted)
        [written config record pids a] := fun {_ pids _ a} =>
    ⟨[config.reportWords record pids], List.prefix_append _ _, .cons (readsAs_report pids a) .nil⟩
  have hshown : ∀ {process pids : String} {rest : List (String × String)}
      {a b : Except Fault ShellResult},
      Carries config (.report record ((process, pids) :: rest) wanted)
        [written config record pids a, shown record b] := fun {_ pids _ a b} =>
    ⟨[config.reportWords record pids, ["cat", SamplerConfig.reportPath record]],
      List.prefix_append _ _, .cons (readsAs_report pids a) (.cons (readsAs_readReport b) .nil)⟩
  cases h with
  | finished => exact carries_of_nil rfl
  | failed hf =>
    cases hf with
    | reportUnreachable => exact hwritten
    | reportFailed _ => exact hwritten
    | readUnreachable _ => exact hshown
    | readFailed _ _ => exact hshown
    | malformed _ _ _ => exact hshown
  | broken hb =>
    cases hb with
    | report _ => exact hwritten
    | read _ _ => exact hshown
    | overflow _ _ _ => exact hshown

theorem carries_of_reportRun {processes : List (String × String)} {es : List Deed}
    {r : Except Fault RunReport} (h : (reportRun config record processes wanted).MayGo es r) :
    Carries config (.report record processes wanted) es := by
  obtain ⟨visits, rest, last, rfl, rfl, -, hend⟩ := reportRunFrom_mayGo h
  obtain ⟨first, hfirst, hread⟩ := readsAs_of_runEnds hend
  refine ⟨(Operation.report record (visits.map Visit.asked) wanted).asks config ++ first, ?_, ?_⟩
  · simpa [Operation.asks] using hfirst
  · rw [carriers_append]
    exact List.rel_append (readsAs_visits visits) hread

/-- **Every operation carries what it is given.** -/
theorem carries_of_perform {s : SessionState} {o : Operation} {es : List Deed}
    {r : Except Fault (SessionState × Except Fault OperationResult)}
    (h : (o.perform config s).MayGo es r) : Carries config o es := by
  cases o with
  | startCollecting subcommand arguments =>
    rcases mayGo_bind.1 h with ⟨_, front, rest, rfl, hs, rfl, -⟩ | ⟨f, -, hs⟩
    · rw [List.append_nil]
      exact carries_of_nil (carriers_of_starts (startCollecting_mayGo hs))
    · exact carries_of_nil (carriers_of_starts (startCollecting_mayGo hs))
  | stopCollecting destination =>
    obtain ⟨r', hd⟩ := exists_mayGo_of_attempt h
    exact carries_of_collects (stopCollecting_mayGo hd)
  | stopSampler =>
    obtain ⟨r', hd⟩ := exists_mayGo_of_attempt h
    exact carries_of_nil (carriers_of_stops (stopSampler_mayGo hd))
  | isRunning =>
    obtain ⟨r', hd⟩ := exists_mayGo_of_attempt h
    obtain ⟨a, rfl, -⟩ := isRunning_mayGo.1 hd
    exact carries_of_nil rfl
  | processIds process =>
    obtain ⟨r', hd⟩ := exists_mayGo_of_attempt h
    obtain ⟨a, -, rfl, -⟩ := processIds_mayGo hd
    exact ⟨_, List.prefix_rfl, .cons (readsAs_lookUp process a) .nil⟩
  | report record processes wanted =>
    obtain ⟨r', hd⟩ := exists_mayGo_of_attempt h
    exact carries_of_reportRun hd

/-! ## 4. Whole runs -/

/-- The deeds of a sequence are those of its operations, each carrying what it is given. -/
theorem carries_of_performAll : ∀ {operations : List Operation} {s : SessionState}
    {es : List Deed} {r : Except Fault (SessionState × List (Except Fault OperationResult))},
    (performAll config s operations).MayGo es r →
      ∃ parts, es = parts.flatten ∧ List.Forall₂ (Carries config) operations parts
  | [], _, es, r, h => by
    obtain ⟨rfl, -⟩ := h
    exact ⟨[], rfl, .nil⟩
  | o :: rest, s, es, r, h => by
    rcases mayGo_bind.1 h with ⟨p, front, tail, rfl, ho, hk⟩ | ⟨f, -, ho⟩
    · have hrest : ∃ r, (performAll config p.1 rest).MayGo tail r := by
        rcases mayGo_bind.1 hk with ⟨q, front', tail', rfl, hr, rfl, -⟩ | ⟨f, -, hr⟩
        · rw [List.append_nil]
          exact ⟨_, hr⟩
        · exact ⟨_, hr⟩
      obtain ⟨r', hr⟩ := hrest
      obtain ⟨parts, rfl, hparts⟩ := carries_of_performAll hr
      exact ⟨front :: parts, rfl, .cons (carries_of_perform ho) hparts⟩
    · -- an operation that ends the sequence leaves the others without deeds
      refine ⟨es :: rest.map fun _ => [], ?_, .cons (carries_of_perform ho) ?_⟩
      · simp
      · rw [List.forall₂_map_right_iff, List.forall₂_same]
        exact fun o _ => carries_of_nil rfl

/-- **Arguments arrive as they are.**  Whatever the device answers, whatever the settings and
whichever operations follow each other, with whatever paths, names and ids: the shell reads the
commands of each operation as rows of words, and these are the words that the operation asks for,
in order and up to the point where it ends. -/
theorem commands_carryWords {σ : Type} (w : World ShellCall ShellAnswer σ) (world : σ)
    (config : SamplerConfig) (s : SessionState) (operations : List Operation) :
    ∃ parts, deeds ((performAll config s operations).run w world).events = parts.flatten ∧
      List.Forall₂ (Carries config) operations parts :=
  carries_of_performAll (run_mayGo w (performAll config s operations) world)

/-- Settings with a record path that has a quote, a blank and a semicolon. -/
def hostileConfig : SamplerConfig := { recordPath := "/tmp/it's; x" }

/-- Operations whose values try to be more than one word, or none. -/
def hostileOperations : List Operation :=
  [.stopCollecting "~/$(id)\n/'a' b", .processIds "", .report "a&b" [("p", "1;2  3")] []]

/-- Hostile values are words like others. -/
theorem commands_carryWords_hostileValues :
    IsPlainWord hostileConfig.binary ∧
      (∃ parts, deeds ((performAll hostileConfig {} hostileOperations).run plainDevice true).events =
        parts.flatten ∧ List.Forall₂ (Carries hostileConfig) hostileOperations parts) ∧
      (carriers ((performAll hostileConfig {} hostileOperations).run plainDevice true).events).map
          (argv ·.call.command) =
        [some ["mkdir", "-p", "~/$(id)\n"], some ["mv", "/tmp/it's; x", "~/$(id)\n/'a' b"],
          some ["pidof", ""],
          some ["simpleperf", "report", "-i", "a&b", "--pids", "1;2,3", "--sort", "pid,symbol",
            "-o", "a&b.txt"],
          some ["cat", "a&b.txt"]] := by
  refine ⟨by decide, commands_carryWords plainDevice true hostileConfig {} hostileOperations, ?_⟩
  decide +kernel

end Session
end DeviceSampling
