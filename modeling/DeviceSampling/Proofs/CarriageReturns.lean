/-
# Carriage returns on the way

On its way from the device a text may get carriage returns in front of its line feeds, one or more
of them.  One is part of the line boundary and cannot be seen in the lines at all.  Each further one
is a boundary of its own, so it adds an empty line, and an empty line of a report says nothing: only
the numbers of the lines behind it change.

* `addReturns`: a text with carriage returns in front of its line feeds;
* `Padded`, `lines_addReturns`: the lines of such a text are those of the first, with empty ones
  between them;
* `SameReading`, `Padded.sameReading`: a reading that differs in the number of its fault alone;
* `parseReport_addReturns`: **carriage returns do not change a reading.**
-/
import Mathlib.Algebra.Order.BigOperators.Group.List
import Mathlib.Algebra.Order.Group.Nat
import DeviceSampling.Proofs.ReportGrammar

namespace DeviceSampling

open Text

/-! ## 1. Texts with carriage returns -/

/-- The text with carriage returns in front of its line feeds, as many as the numbers say: the first
number is for the first line feed, and line feeds without a number get none. -/
def addReturns : List Nat → List Char → List Char
  | _, [] => []
  | [], cs => cs
  | n :: runs, c :: cs =>
    if c = '\n' then List.replicate n '\r' ++ '\n' :: addReturns runs cs
    else c :: addReturns (n :: runs) cs

/-- Lines with empty ones put in behind some of them, at most so many behind each. -/
inductive Padded (most : Nat) : List (List Char) → List (List Char) → Prop
  | nil : Padded most [] []
  | line {n ls ls'} (l : List Char) : n ≤ most → Padded most ls ls' →
      Padded most (l :: ls) (l :: (List.replicate n [] ++ ls'))

namespace Padded

variable {most : Nat} {ls ls' : List (List Char)}

theorem refl : ∀ ls : List (List Char), Padded most ls ls
  | [] => .nil
  | l :: ls => .line (n := 0) l (Nat.zero_le most) (refl ls)

/-- Where nothing is put in, the lines stay. -/
theorem eq_of_zero (h : Padded 0 ls ls') : ls' = ls := by
  induction h with
  | nil => rfl
  | line l hn _ ih =>
    rw [Nat.le_zero.1 hn, ih]
    rfl

/-- What is put in does not come in front of the first line. -/
theorem consFirst (c : Char) (h : Padded most ls ls') :
    Padded most (consFirst c ls) (consFirst c ls') := by
  cases h with
  | nil => exact .line (n := 0) [c] (Nat.zero_le most) .nil
  | line l hn h => exact .line (c :: l) hn h

end Padded

/-- A run of carriage returns with a line feed behind it ends a line, and leaves one empty line less
than there are carriage returns. -/
theorem lines_returns (rest : List Char) : ∀ n : Nat,
    lines (List.replicate n '\r' ++ '\n' :: rest) =
      [] :: (List.replicate (n - 1) [] ++ lines rest)
  | 0 => rfl
  | 1 => rfl
  | n + 2 => by
    have ih := lines_returns rest (n + 1)
    -- the first carriage return has another behind it, so it is a boundary alone
    have hstep : lines (List.replicate (n + 2) '\r' ++ '\n' :: rest) =
        [] :: lines (List.replicate (n + 1) '\r' ++ '\n' :: rest) := by
      simp only [List.replicate_succ, List.cons_append]
      rw [lines, if_pos (by decide)]
      simp
    rw [hstep, ih]
    rfl

/-- **The lines of a text with carriage returns put in** are those of the text, with empty ones
between them. -/
theorem lines_addReturns {most : Nat} (cs : List Char) (hr : '\r' ∉ cs) (runs : List Nat)
    (hm : ∀ n ∈ runs, n ≤ most + 1) : Padded most (lines cs) (lines (addReturns runs cs)) := by
  induction cs generalizing runs with
  | nil =>
    simp only [addReturns]
    exact .nil
  | cons c cs ih =>
    cases runs with
    | nil => exact .refl _
    | cons n runs =>
      have hc : c ≠ '\r' := fun h => hr (h ▸ List.mem_cons_self)
      have hcs : '\r' ∉ cs := fun h => hr (List.mem_cons_of_mem c h)
      -- a character other than a carriage return is a boundary or not, whatever comes after it
      have hlines : ∀ rest, lines (c :: rest) =
          if isBoundary c then [] :: lines rest else consFirst c (lines rest) := by
        intro rest
        rw [lines]
        exact fun _ h => absurd h hc
      unfold addReturns
      by_cases hfeed : c = '\n'
      · subst hfeed
        have hn := hm n List.mem_cons_self
        have hrest := ih hcs runs fun k hk => hm k (List.mem_cons_of_mem n hk)
        rw [if_pos rfl, lines_returns, hlines, if_pos (by decide)]
        exact .line [] (by omega) hrest
      · rw [if_neg hfeed, hlines, hlines]
        split
        · exact .line (n := 0) [] (Nat.zero_le most) (ih hcs (n :: runs) hm)
        · exact (ih hcs (n :: runs) hm).consFirst c

/-! ## 2. Readings -/

/-- **Readings that differ in the number of the fault alone:** both complete with the same metrics,
both stopped by the same line for the same cause with the same metrics, or both without a result for
the same cause. -/
inductive SameReading :
    Except ReportOverflow ParsedReport → Except ReportOverflow ParsedReport → Prop
  | complete (m : Metrics) : SameReading (.ok ⟨m, none⟩) (.ok ⟨m, none⟩)
  | malformed (m : Metrics) (line : String) (cause : LineFault) {number number' : Nat} :
      number ≤ number' →
      SameReading (.ok ⟨m, some ⟨number, line, cause⟩⟩) (.ok ⟨m, some ⟨number', line, cause⟩⟩)
  | overflow (cause : ReportOverflow) : SameReading (.error cause) (.error cause)

section Readings

variable {process : String} {wanted : List String}

/-- Empty lines leave the state as it is, and count. -/
theorem readLines_empty (s : ReportState) (rest : List (List Char)) : ∀ n before : Nat,
    readLines process wanted s before (List.replicate n [] ++ rest) =
      readLines process wanted s (before + n) rest
  | 0, before => rfl
  | n + 1, before => by
    have hempty : s.step process wanted (ReportLine.read []) = .ok s := rfl
    have ih := readLines_empty s rest n (before + 1)
    simp only [List.replicate_succ, List.cons_append, readLines, hempty]
    rw [ih]
    congr 1
    omega

/-- **Empty lines between the lines do not change a reading.** -/
theorem Padded.sameReading {most : Nat} {ls ls' : List (List Char)} (h : Padded most ls ls') :
    ∀ (s : ReportState) (before before' : Nat), before ≤ before' →
      SameReading (readLines process wanted s before ls)
        (readLines process wanted s before' ls') := by
  induction h with
  | nil => exact fun s _ _ _ => .complete s.metrics
  | @line n ls ls' l _ _ ih =>
    intro s before before' hle
    unfold readLines
    cases s.step process wanted (ReportLine.read l) with
    | ok s' =>
      dsimp only
      rw [readLines_empty]
      exact ih s' (before + 1) (before' + 1 + n) (by omega)
    | error stop =>
      cases stop with
      | malformed cause => exact .malformed s.metrics _ cause (Nat.succ_le_succ hle)
      | overflow cause => exact .overflow cause

end Readings

/-- **Carriage returns do not change a reading.**  Put in front of the line feeds of a text that has
none, as many as one likes in front of each, they leave the metrics and the kind of the end as they
are, with the line and the cause of a fault; and if there is at most one in front of each line feed,
they also leave its number. -/
theorem parseReport_addReturns {text : String} (hr : '\r' ∉ text.toList) (process : String)
    (wanted : List String) (runs : List Nat) :
    SameReading (parseReport text process wanted)
        (parseReport (String.ofList (addReturns runs text.toList)) process wanted) ∧
      ((∀ n ∈ runs, n ≤ 1) →
        parseReport (String.ofList (addReturns runs text.toList)) process wanted =
          parseReport text process wanted) := by
  unfold parseReport
  rw [String.toList_ofList]
  constructor
  · have hmost : ∀ n ∈ runs, n ≤ runs.sum + 1 := fun n hn =>
      Nat.le_succ_of_le (List.le_sum_of_mem hn)
    exact (lines_addReturns text.toList hr runs hmost).sameReading {} 0 0 (Nat.le_refl 0)
  · intro hone
    rw [(lines_addReturns text.toList hr runs hone).eq_of_zero]

/-- A text whose last line is a total that cannot be read. -/
def lostTotal : String := "Event: cycles\nEvent count: 200\n50.00%  12  foo()\n\nEvent count: lots\n"

/-- Three carriage returns and two add three empty lines, and the fault is found three lines later;
one in front of each line feed cannot be seen. -/
theorem parseReport_addReturns_lostTotal :
    '\r' ∉ lostTotal.toList ∧
      SameReading (parseReport lostTotal "sf" ["foo()"])
        (parseReport (String.ofList (addReturns [0, 3, 1, 2] lostTotal.toList)) "sf" ["foo()"]) ∧
      (parseReport (String.ofList (addReturns [0, 3, 1, 2] lostTotal.toList)) "sf" ["foo()"]).map
          (·.fault.map ReportFault.number) = .ok (some 8) ∧
      parseReport (String.ofList (addReturns [1, 1, 1, 1, 1] lostTotal.toList)) "sf" ["foo()"] =
        .ok ⟨⟨[("cycles-sf", "200"), ("cycles-sf-foo()", "100")]⟩,
          some ⟨5, "Event count: lots", .total (.malformed 10 "lots")⟩⟩ := by
  have hr : '\r' ∉ lostTotal.toList := by decide +kernel
  have hread : parseReport lostTotal "sf" ["foo()"] =
      .ok ⟨⟨[("cycles-sf", "200"), ("cycles-sf-foo()", "100")]⟩,
        some ⟨5, "Event count: lots", .total (.malformed 10 "lots")⟩⟩ := by decide +kernel
  refine ⟨hr, (parseReport_addReturns hr "sf" ["foo()"] [0, 3, 1, 2]).1, by decide +kernel, ?_⟩
  rw [(parseReport_addReturns hr "sf" ["foo()"] [1, 1, 1, 1, 1]).2 (by decide), hread]

end DeviceSampling
