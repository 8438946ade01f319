/-
# Process ids on their way to a report

Three operations read what the device shows of a process, each for itself: a look-up keeps the
trimmed output, a running check only says whether it shows ids, and a report command cuts what the
look-up kept into words and joins them by commas.  They agree on what a group of digits is and on
what separates two of them, so the filter of a report has the groups that the device showed.

* `DigitGroups`: the groups of digits of a text, in order;
* `reportTexts`: the report commands among some events;
* `ChecksAgree`, `FiltersReports`: what the other two operations make of the ids of a look-up;
* `processIds_reachReports`: **what a look-up ends with, and where its ids go.**
-/
import DeviceSampling.Proofs.CommandWords
import DeviceSampling.Proofs.TruthfulChecks

namespace DeviceSampling

open Text

/-! ## 1. Groups of digits -/

/-- **The groups of digits of a text,** in order, with blanks between two of them. -/
inductive DigitGroups : List (List Char) → List Char → Prop
  | one {ds : List Char} : ds ≠ [] → (∀ c ∈ ds, isDigit c = true) → DigitGroups [ds] ds
  | more {ds gap rest : List Char} {groups : List (List Char)} : ds ≠ [] →
      (∀ c ∈ ds, isDigit c = true) → gap ≠ [] → AllBlank gap → DigitGroups groups rest →
      DigitGroups (ds :: groups) (ds ++ gap ++ rest)

theorem exists_digitGroups {cs : List Char} (h : IdGroups cs) : ∃ groups, DigitGroups groups cs := by
  induction h with
  | one hne hd => exact ⟨_, .one hne hd⟩
  | more hne hd hgne hg _ ih =>
    obtain ⟨groups, hgroups⟩ := ih
    exact ⟨_, .more hne hd hgne hg hgroups⟩

namespace DigitGroups

variable {groups : List (List Char)} {cs : List Char}

theorem ne_nil (h : DigitGroups groups cs) : groups ≠ [] := by
  cases h <;> simp

/-- Every group is digits, one at least. -/
theorem digits (h : DigitGroups groups cs) :
    ∀ g ∈ groups, g ≠ [] ∧ ∀ c ∈ g, isDigit c = true := by
  induction h with
  | one hne hd => simpa using ⟨hne, hd⟩
  | more hne hd _ _ _ ih =>
    intro g hg
    rcases List.mem_cons.1 hg with rfl | hg
    · exact ⟨hne, hd⟩
    · exact ih g hg

/-- The groups of a text are its words, so a text has its groups in one way only. -/
theorem words_eq (h : DigitGroups groups cs) : words cs = groups := by
  induction h with
  | @one ds hne hd =>
    have hw : words ([] ++ ds ++ []) = ds :: words [] :=
      words_append allBlank_nil hne (noBlank_of_isDigit hd) (by simp)
    simpa using hw
  | @more ds gap rest groups hne hd hgne hg _ ih =>
    have hw := words_append allBlank_nil hne (noBlank_of_isDigit hd) (head_gap hgne hg rest)
    rw [words_lead hg, ih] at hw
    simpa using hw

/-- No group has a comma. -/
theorem comma_not_mem (h : DigitGroups groups cs) : ∀ g ∈ groups, ',' ∉ g := by
  intro g hg hmem
  have hcomma := (h.digits g hg).2 ',' hmem
  revert hcomma
  decide

/-- **A filter joins the groups by commas.** -/
theorem joinedIds_eq {ids : String} (h : DigitGroups groups ids.toList) :
    SamplerConfig.joinedIds ids = String.ofList (List.intercalate [','] groups) := by
  rw [SamplerConfig.joinedIds, h.words_eq]

/-- Groups that are joined by commas are cut apart at the commas. -/
theorem splitOn_intercalate (h : DigitGroups groups cs) :
    (List.intercalate [','] groups).splitOn ',' = groups :=
  List.splitOn_intercalate ',' h.comma_not_mem h.ne_nil

end DigitGroups

namespace Session

open Dialog Shell

variable {config : SamplerConfig} {record : String} {wanted : List String}

/-! ## 2. Report commands -/

/-- The texts of the report commands among some events, in order. -/
def reportTexts (es : List Deed) : List String :=
  ((commands es).filter (·.call.purpose = .report)).map (·.call.command)

@[simp] theorem reportTexts_append (es fs : List Deed) :
    reportTexts (es ++ fs) = reportTexts es ++ reportTexts fs := by
  simp [reportTexts]

@[simp] theorem reportTexts_written (pids : String) (a : Except Fault ShellResult)
    (es : List Deed) :
    reportTexts (written config record pids a :: es) =
      config.reportCommand record pids :: reportTexts es := rfl

@[simp] theorem reportTexts_shown (a : Except Fault ShellResult) (es : List Deed) :
    reportTexts (shown record a :: es) = reportTexts es := rfl

@[simp] theorem reportTexts_nil : reportTexts [] = [] := rfl

/-- The report commands that a run of reports would issue if no process failed. -/
def plannedTexts (config : SamplerConfig) (record : String) (processes : List (String × String)) :
    List String :=
  processes.map fun p => config.reportCommand record p.2

theorem reportTexts_visits (visits : List Visit) :
    reportTexts (visits.flatMap (Visit.deeds config record)) =
      plannedTexts config record (visits.map Visit.asked) := by
  induction visits with
  | nil => rfl
  | cons v visits ih =>
    simp only [List.flatMap_cons, reportTexts_append, ih]
    rfl

/-- The end of a run has no report command if no process is left, and else that of the process at
which the run stopped. -/
theorem reportTexts_of_runEnds {gathered : Metrics} {processes : List (String × String)}
    {es : List Deed} {r : Except Fault RunReport}
    (h : RunEnds config record wanted gathered processes es r) :
    (processes = [] ∧ reportTexts es = []) ∨
      ∃ p rest, processes = p :: rest ∧ reportTexts es = [config.reportCommand record p.2] ∧
        ∀ report, r = .ok report → report.complete = false := by
  cases h with
  | finished => exact Or.inl ⟨rfl, rfl⟩
  | @failed process pids rest es metrics fault hf =>
    refine Or.inr ⟨(process, pids), rest, rfl, ?_, ?_⟩
    · cases hf <;> simp
    · rintro report hr
      cases hr
      rfl
  | @broken process pids rest es fault hb =>
    refine Or.inr ⟨(process, pids), rest, rfl, ?_, ?_⟩
    · cases hb <;> simp
    · rintro report hr
      cases hr

/-- **The report commands of a run** are those that were planned, up to the process at which the run
stops. -/
theorem reportTexts_of_reportRun {processes : List (String × String)} {es : List Deed}
    {r : Except Fault RunReport} (h : (reportRun config record processes wanted).MayGo es r) :
    reportTexts es <+: plannedTexts config record processes ∧
      (processes ≠ [] → reportTexts es ≠ []) ∧
      ∀ report, r = .ok report → report.complete = true →
        reportTexts es = plannedTexts config record processes := by
  obtain ⟨visits, rest, last, rfl, rfl, -, hend⟩ := reportRunFrom_mayGo h
  have hplan : plannedTexts config record (visits.map Visit.asked ++ rest) =
      plannedTexts config record (visits.map Visit.asked) ++ plannedTexts config record rest :=
    List.map_append
  rw [reportTexts_append, reportTexts_visits, hplan]
  rcases reportTexts_of_runEnds hend with ⟨rfl, hlast⟩ | ⟨p, rest, rfl, hlast, hstop⟩
  · simp [hlast, plannedTexts]
  · refine ⟨?_, ?_, ?_⟩
    · rw [hlast, List.prefix_append_right_inj]
      exact ⟨plannedTexts config record rest, rfl⟩
    · simp [hlast]
    · intro report hr hcomplete
      rw [hstop report hr] at hcomplete
      cases hcomplete

/-! ## 3. Where the ids go -/

/-- **Running checks agree with a look-up on an answer:** one that is positive on it had ids to show,
and ids with no error beside them make one positive. -/
def ChecksAgree (answer : Except Fault ShellResult) (ids : String) : Prop :=
  ∀ (τ : Type) (w : World ShellCall ShellAnswer τ) (world : τ) (config : SamplerConfig),
    (checkIn w world config).1 = answer →
    (((isRunning config).run w world).result = .ok true → ids ≠ "") ∧
      (ids ≠ "" → (∀ r, answer = .ok r → AllBlank r.errors.toList) →
        ((isRunning config).run w world).result = .ok true)

/-- **A run of reports filters by the groups.**  It issues its report commands in order, up to the
process at which it stops, and the one for the ids has their groups as one argument: joined by
commas, and cut apart at the commas the groups again. -/
def FiltersReports (ids : String) (groups : List (List Char)) : Prop :=
  ∀ (τ : Type) (w : World ShellCall ShellAnswer τ) (world : τ) (config : SamplerConfig)
    (record process : String) (wanted : List String) (before after : List (String × String)),
    let run := (reportRun config record (before ++ (process, ids) :: after) wanted).run w world
    let filter := String.ofList (List.intercalate [','] groups)
    filter.toList.splitOn ',' = groups ∧ reportTexts run.events ≠ [] ∧
      reportTexts run.events <+: plannedTexts config record (before ++ (process, ids) :: after) ∧
      (∀ report, run.result = .ok report → report.complete = true →
        reportTexts run.events = plannedTexts config record (before ++ (process, ids) :: after)) ∧
      ∀ text, (reportTexts run.events)[before.length]? = some text →
        text = config.binary ++ " report -i " ++ quoteWord record ++ " --pids " ++ quoteWord filter ++
          " --sort pid,symbol -o " ++ quoteWord (record ++ ".txt") ∧
        (IsPlainWord config.binary → argv text = some [config.binary, "report", "-i", record,
          "--pids", filter, "--sort", "pid,symbol", "-o", record ++ ".txt"])

/-- Ids are shown exactly if there are any. -/
theorem Finds.ne_empty_iff {answer : Except Fault ShellResult} {ids : String}
    (h : Finds answer ids) : ids ≠ "" ↔ ShowsIds answer := by
  cases h with
  | @shown r hcode hids =>
    refine iff_of_true ?_ ⟨r, rfl, hcode, hids⟩
    intro hempty
    have hnil : trim r.output.toList = [] := by
      simpa [strip] using hempty
    have hwords := hids.words.1
    rw [hnil, words_nil] at hwords
    exact hwords rfl
  | nothing hnone =>
    refine iff_of_false (fun h => h rfl) ?_
    rintro ⟨r, rfl, hcode, hids⟩
    exact hnone r rfl hcode hids

/-- Ids are the trimmed output, and groups of digits. -/
theorem Finds.shown_of_ne_empty {answer : Except Fault ShellResult} {ids : String}
    (h : Finds answer ids) (hne : ids ≠ "") :
    (∀ r, answer = .ok r → ids = strip r.output) ∧ IdGroups ids.toList := by
  cases h with
  | @shown r hcode hids =>
    refine ⟨?_, ?_⟩
    · rintro r' hr
      cases hr
      rfl
    · rw [strip, String.toList_ofList]
      exact hids
  | nothing => exact absurd rfl hne

/-- A running check on the answer of a look-up agrees with it. -/
theorem Finds.checksAgree {answer : Except Fault ShellResult} {ids : String}
    (h : Finds answer ids) : ChecksAgree answer ids := by
  intro τ w world config hanswer
  rw [(run_isRunning w world config).1, hanswer]
  constructor
  · intro hrunning
    exact h.ne_empty_iff.2 (showsIds_of_positive (positive_of_checkEnd hrunning))
  · intro hne hblank
    obtain ⟨r, rfl, hcode, hids⟩ := h.ne_empty_iff.1 hne
    have hpositive : Positive (.ok r) := ⟨r, rfl, hcode, hblank r rfl, hids⟩
    exact congrArg Except.ok (showsRunning_iff.2 hpositive)

/-- **The groups of ids are what their reports are filtered by.** -/
theorem filtersReports_of_digitGroups {ids : String} {groups : List (List Char)}
    (h : DigitGroups groups ids.toList) : FiltersReports ids groups := by
  intro τ w world config record process wanted before after run filter
  obtain ⟨hfront, hsome, hall⟩ :=
    reportTexts_of_reportRun (run_mayGo w (reportRun config record (before ++ (process, ids) :: after)
      wanted) world)
  have htexts : reportTexts (deeds run.events) = reportTexts run.events := by
    rw [reportTexts, commands_deeds]
    rfl
  rw [htexts] at hfront hsome hall
  refine ⟨?_, hsome (by simp), hfront, hall, ?_⟩
  · rw [String.toList_ofList]
    exact h.splitOn_intercalate
  · intro text htext
    have hplanned : text = config.reportCommand record ids := by
      obtain ⟨rest, hrest⟩ := hfront
      have hindex : (plannedTexts config record (before ++ (process, ids) :: after))[before.length]? =
          some text := by
        rw [← hrest]
        exact List.getElem?_append_left (List.getElem?_eq_some_iff.1 htext).1 ▸ htext
      simpa [plannedTexts, eq_comm] using hindex
    subst hplanned
    constructor
    · rw [SamplerConfig.reportCommand, h.joinedIds_eq]
      rfl
    · intro hplain
      rw [reportCommand_eq_spell hplain, argv_spell, SamplerConfig.reportWords, h.joinedIds_eq]
      rfl

/-- **What a look-up ends with, and where its ids go.**  A look-up asks once and never fails.  It has
ids exactly if the command ran, succeeded and printed groups of digits, whatever it wrote beside
them, and then they are the trimmed output.  Running checks agree with it on its answer, and a run
of reports filters by the groups. -/
theorem processIds_reachReports {σ : Type} (w : World ShellCall ShellAnswer σ) (world : σ)
    (process : String) :
    ∃ answer ids,
      deeds ((processIds process).run w world).events =
          [issued .lookUp (lookUpCommand process) answer] ∧
        answer = (w.call ⟨.lookUp, lookUpCommand process, none⟩ world).1 ∧
        ((processIds process).run w world).result = .ok ids ∧
        (ids ≠ "" ↔ ShowsIds answer) ∧ (ids ≠ "" → ∀ r, answer = .ok r → ids = strip r.output) ∧
        ChecksAgree answer ids ∧
        (ids ≠ "" → ∃ groups, DigitGroups groups ids.toList ∧ FiltersReports ids groups) := by
  obtain ⟨answer, ids, hdeeds, hresult, hfinds⟩ :=
    processIds_mayGo (run_mayGo w (processIds process) world)
  have hplays := (run_plays w (processIds process) world).1
  rw [hdeeds] at hplays
  have hanswer : (w.call ⟨.lookUp, lookUpCommand process, none⟩ world).1 = answer := hplays.1
  refine ⟨answer, ids, hdeeds, hanswer.symm, hresult, hfinds.ne_empty_iff,
    fun hne => (hfinds.shown_of_ne_empty hne).1, hfinds.checksAgree, fun hne => ?_⟩
  obtain ⟨groups, hgroups⟩ := exists_digitGroups (hfinds.shown_of_ne_empty hne).2
  exact ⟨groups, hgroups, filtersReports_of_digitGroups hgroups⟩

end Session
end DeviceSampling
