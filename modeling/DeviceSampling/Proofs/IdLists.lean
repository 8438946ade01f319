/-
# When a check is positive

A running check reads its answer with `ShellResult.showsRunning`.  This module says of what
answers that is true in terms of the text alone: exit code zero, blank error output, and an
output that is groups of digits with blanks between them, once its ends are trimmed.

* `IdGroups`: digits, or digits and blanks and further groups;
* `isIdList_iff`, `isIdList_strip_iff`: on a trimmed text, `isIdList` decides it;
* `Positive`, `showsRunning_iff`: a positive answer.
-/
import DeviceSampling.Proofs.Blanks
import DeviceSampling.Session.ProcessIds

namespace DeviceSampling

open Text

/-! ## 1. Groups of digits -/

/-- One group of digits or more, with blanks between them. -/
inductive IdGroups : List Char → Prop
  | one {ds : List Char} : ds ≠ [] → (∀ c ∈ ds, isDigit c = true) → IdGroups ds
  | more {ds gap rest : List Char} : ds ≠ [] → (∀ c ∈ ds, isDigit c = true) → gap ≠ [] →
      AllBlank gap → IdGroups rest → IdGroups (ds ++ gap ++ rest)

/-- Every run of decimal digits keeps clear of every blank. -/
theorem digitZeros_clear : ∀ z ∈ digitZeros,
    z = 0x30 ∨ (0xA0 < z ∧ z + 9 < 0x1680) ∨ (0x1680 < z ∧ z + 9 < 0x2000) ∨ 0x3000 < z := by
  decide

/-- **A digit is not blank.** -/
theorem isBlank_of_isDigit {c : Char} (h : isDigit c = true) : isBlank c = false := by
  unfold isDigit digitValue? at h
  have hz : (0x30 ≤ c.toNat ∧ c.toNat ≤ 0x39) ∨
      ∃ z ∈ digitZeros, z ≤ c.toNat ∧ c.toNat ≤ z + 9 ∧ ¬ c.toNat < 0x80 := by
    split at h
    · split at h
      · next hr =>
        simp only [Char.le_def, UInt32.le_iff_toNat_le] at hr
        exact Or.inl hr
      · cases h
    · next hn =>
      rw [Option.isSome_map, List.find?_isSome] at h
      obtain ⟨z, hz, hr⟩ := h
      have hr' : z ≤ c.toNat ∧ c.toNat ≤ z + 9 := by simpa using hr
      exact Or.inr ⟨z, hz, hr'.1, hr'.2, hn⟩
  unfold isBlank
  simp only [Bool.or_eq_false_iff, Bool.and_eq_false_iff, decide_eq_false_iff_not, beq_eq_false_iff_ne]
  rcases hz with hr | ⟨z, hz, hl, hu, hn⟩
  · omega
  · have := digitZeros_clear z hz
    omega

theorem noBlank_of_isDigit {ds : List Char} (h : ∀ c ∈ ds, isDigit c = true) : NoBlank ds :=
  fun c hc => isBlank_of_isDigit (h c hc)

/-- The words of groups of digits are the groups. -/
theorem IdGroups.words {cs : List Char} (h : IdGroups cs) :
    words cs ≠ [] ∧ ∀ w ∈ words cs, ∀ c ∈ w, isDigit c = true := by
  induction h with
  | @one ds hne hd =>
    have hw : Text.words ([] ++ ds ++ []) = ds :: Text.words [] :=
      words_append allBlank_nil hne (noBlank_of_isDigit hd) (by simp)
    rw [List.nil_append, List.append_nil, words_nil] at hw
    rw [hw]
    refine ⟨List.cons_ne_nil _ _, fun w hm => ?_⟩
    rw [List.mem_singleton.1 hm]
    exact hd
  | @more ds gap rest hne hd hgne hg _ ih =>
    have hw := words_append allBlank_nil hne (noBlank_of_isDigit hd) (head_gap hgne hg rest)
    rw [List.nil_append, ← List.append_assoc, words_lead hg] at hw
    rw [hw]
    refine ⟨List.cons_ne_nil _ _, fun w hm => ?_⟩
    rcases List.mem_cons.1 hm with rfl | hm
    · exact hd
    · exact ih.2 w hm

/-- A text without blank ends whose words are digits is groups of digits. -/
theorem idGroups_of_words {cs : List Char} (hne : cs ≠ []) (hc : NoBlankEdge cs)
    (hd : ∀ w ∈ Text.words cs, ∀ c ∈ w, isDigit c = true) : IdGroups cs := by
  -- on the length: a first word, and what follows the gap behind it
  induction hn : cs.length using Nat.strongRecOn generalizing cs with
  | ind n ih =>
    obtain ⟨w, rest, rfl, hwne, -, hr, hws⟩ := exists_first_word hne hc.1
    rw [hws] at hd
    have hwd : ∀ c ∈ w, isDigit c = true := hd w List.mem_cons_self
    by_cases hrest : rest = []
    · rw [hrest, List.append_nil]
      exact .one hwne hwd
    · have hlast : ∀ c ∈ rest.getLast?, isBlank c = false := fun c h =>
        hc.2 c (by rw [List.getLast?_append, Option.mem_def.1 h]; rfl)
      obtain ⟨gap, tail, rfl, hgne, hg, htne, ht⟩ := exists_gap hrest hr hlast
      rw [words_lead hg] at hd
      rw [← List.append_assoc]
      refine .more hwne hwd hgne hg
        (ih tail.length ?_ htne ht (fun v hv => hd v (List.mem_cons_of_mem _ hv)) rfl)
      have := List.length_pos_iff.2 hwne
      simp only [List.length_append] at hn
      omega

/-- **On a text without blank ends, `isIdList` decides whether it is groups of digits.** -/
theorem isIdList_iff {s : String} (hc : NoBlankEdge s.toList) :
    isIdList s = true ↔ IdGroups s.toList := by
  unfold isIdList
  rw [Bool.and_eq_true, Bool.not_eq_true', List.isEmpty_eq_false_iff, List.all_eq_true]
  simp only [List.all_eq_true]
  constructor
  · rintro ⟨hne, hd⟩
    refine idGroups_of_words ?_ hc hd
    intro h
    rw [h, words_nil] at hne
    exact hne rfl
  · exact IdGroups.words

/-- **The ids of an output,** once its ends are trimmed, are groups of digits. -/
theorem isIdList_strip_iff (s : String) :
    isIdList (strip s) = true ↔ IdGroups (trim s.toList) := by
  have hs : (strip s).toList = trim s.toList := String.toList_ofList
  have hc : NoBlankEdge (strip s).toList := by
    obtain ⟨-, -, -, -, -, hc⟩ := exists_trim s.toList
    rwa [hs]
  rw [isIdList_iff hc, hs]

/-! ## 2. Positive answers -/

/-- **A positive answer** to a running check: the command ran, succeeded, wrote no error and
printed groups of digits. -/
def Positive (answer : Except Fault ShellResult) : Prop :=
  ∃ r, answer = .ok r ∧ r.code = 0 ∧ AllBlank r.errors.toList ∧ IdGroups (trim r.output.toList)

/-- A running check holds on its answer exactly if the answer is positive. -/
theorem showsRunning_iff {r : ShellResult} : r.showsRunning = true ↔ Positive (.ok r) := by
  unfold ShellResult.showsRunning ShellResult.ok isBlankText
  rw [Bool.and_eq_true, Bool.and_eq_true, isIdList_strip_iff, decide_eq_true_iff, List.all_eq_true]
  constructor
  · rintro ⟨⟨he, ho⟩, hi⟩
    exact ⟨r, rfl, ho, he, hi⟩
  · rintro ⟨r', h, ho, he, hi⟩
    cases h
    exact ⟨⟨he, ho⟩, hi⟩

/-- A command that did not run gives no positive answer. -/
theorem not_positive_error {f : Fault} : ¬ Positive (.error f) := by
  rintro ⟨r, h, -⟩
  cases h

end DeviceSampling
