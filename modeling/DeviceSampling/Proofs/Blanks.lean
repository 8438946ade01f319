/-
# Blanks at the ends and between words

`trim`, `nextWord` and `words` scan; here they are read the other way, from how a text is made
up.  Each fact comes in two halves: what a scan gives on a text made up of blanks and words, and
that every text is made up so.

* `trim_append`, `exists_trim`: a trimmed text is what lies between blanks at the ends;
* `nextWord_append`, `exists_nextWord`: the next word, blanks before it and the rest after it;
* `words_append`, `words_lead`: the words one by one;
* `exists_first_word`, `exists_gap`: a text without blank ends is words and gaps in turn.
-/
import Mathlib.Data.List.TakeWhile
import DeviceSampling.Text.Blank

namespace DeviceSampling.Text

/-! ## 1. Trimming -/

/-- All characters are blank. -/
def AllBlank (cs : List Char) : Prop := ∀ c ∈ cs, isBlank c = true

/-- No character is blank. -/
def NoBlank (cs : List Char) : Prop := ∀ c ∈ cs, isBlank c = false

/-- Neither end is blank. -/
def NoBlankEdge (cs : List Char) : Prop :=
  (∀ c ∈ cs.head?, isBlank c = false) ∧ ∀ c ∈ cs.getLast?, isBlank c = false

/-- The first character is that of the front, unless the front is empty. -/
theorem head?_append_of_front {front : List Char} (h : front ≠ []) (rest : List Char) :
    (front ++ rest).head? = front.head? := by
  obtain ⟨c, cs, rfl⟩ := List.exists_cons_of_ne_nil h
  rfl

theorem allBlank_nil : AllBlank [] := fun _ h => absurd h List.not_mem_nil

/-- Blanks in front of a text make it begin with a blank. -/
theorem head_gap {gap : List Char} (hne : gap ≠ []) (hg : AllBlank gap) (rest : List Char) :
    ∀ c ∈ (gap ++ rest).head?, isBlank c = true := by
  rw [head?_append_of_front hne]
  exact fun c hc => hg c (List.mem_of_mem_head? hc)

/-- What begins with a blank, and has a text behind it that does not, has a gap in front. -/
theorem gap_ne_nil {gap rest : List Char} (hb : ∀ c ∈ (gap ++ rest).head?, isBlank c = true)
    (hne : rest ≠ []) (hr : ∀ c ∈ rest.head?, isBlank c = false) : gap ≠ [] := by
  rintro rfl
  obtain ⟨c, cs, rfl⟩ := List.exists_cons_of_ne_nil hne
  have h := hr c rfl
  rw [hb c rfl] at h
  cases h

theorem trimLeft_append {bs cs : List Char} (hb : AllBlank bs)
    (hc : ∀ c ∈ cs.head?, isBlank c = false) : trimLeft (bs ++ cs) = cs := by
  unfold trimLeft
  rw [List.dropWhile_append_of_pos hb]
  cases cs with
  | nil => rfl
  | cons c rest => exact List.dropWhile_cons_of_neg (by simp [hc c rfl])

/-- The text in front of which only blanks are dropped. -/
theorem exists_trimLeft (cs : List Char) :
    ∃ bs, cs = bs ++ trimLeft cs ∧ AllBlank bs ∧ ∀ c ∈ (trimLeft cs).head?, isBlank c = false := by
  refine ⟨cs.takeWhile isBlank, List.takeWhile_append_dropWhile.symm, ?_, ?_⟩
  · exact fun c hc => List.mem_takeWhile_imp hc
  · intro c hc
    have := List.head?_dropWhile_not isBlank cs
    simp only [trimLeft] at hc
    rw [Option.mem_def] at hc
    simpa [hc] using this

theorem trimRight_append {bs cs : List Char} (hb : AllBlank bs)
    (hc : ∀ c ∈ cs.getLast?, isBlank c = false) : trimRight (cs ++ bs) = cs := by
  have hb' : AllBlank bs.reverse := fun c h => hb c (List.mem_reverse.1 h)
  have hc' : ∀ c ∈ cs.reverse.head?, isBlank c = false := by
    rw [List.head?_reverse]
    exact hc
  have h := trimLeft_append hb' hc'
  unfold trimLeft at h
  unfold trimRight
  rw [List.reverse_append, h, List.reverse_reverse]

theorem exists_trimRight (cs : List Char) :
    ∃ bs, cs = trimRight cs ++ bs ∧ AllBlank bs ∧
      ∀ c ∈ (trimRight cs).getLast?, isBlank c = false := by
  obtain ⟨bs, he, hb, hc⟩ := exists_trimLeft cs.reverse
  refine ⟨bs.reverse, ?_, fun c h => hb c (List.mem_reverse.1 h), ?_⟩
  · have := congrArg List.reverse he
    rw [List.reverse_reverse, List.reverse_append] at this
    exact this
  · unfold trimRight
    rw [List.getLast?_reverse]
    exact hc

/-- **A trimmed text lies between blanks.** -/
theorem trim_append {lead cs trail : List Char} (hl : AllBlank lead) (ht : AllBlank trail)
    (hc : NoBlankEdge cs) : trim (lead ++ cs ++ trail) = cs := by
  unfold trim
  by_cases he : cs = []
  · subst he
    have h : trimLeft (lead ++ [] ++ trail ++ []) = [] := by
      refine trimLeft_append (fun c h => ?_) (by simp)
      rw [List.append_nil] at h
      rcases List.mem_append.1 h with h | h
      · exact hl c h
      · exact ht c h
    rw [List.append_nil] at h
    rw [h]
    rfl
  · have h : ∀ c ∈ (cs ++ trail).head?, isBlank c = false := by
      rw [head?_append_of_front he]
      exact hc.1
    rw [List.append_assoc, trimLeft_append hl h, trimRight_append ht hc.2]

/-- Every text is a trimmed text between blanks. -/
theorem exists_trim (cs : List Char) :
    ∃ lead trail, cs = lead ++ trim cs ++ trail ∧ AllBlank lead ∧ AllBlank trail ∧
      NoBlankEdge (trim cs) := by
  obtain ⟨lead, hl, hlb, hlc⟩ := exists_trimLeft cs
  obtain ⟨trail, ht, htb, htc⟩ := exists_trimRight (trimLeft cs)
  refine ⟨lead, trail, ?_, hlb, htb, ?_, htc⟩
  · unfold trim
    rw [List.append_assoc, ← ht]
    exact hl
  · intro c hc
    have hne : trimRight (trimLeft cs) ≠ [] := by
      intro h
      rw [trim, h] at hc
      exact absurd hc (by simp)
    refine hlc c ?_
    rw [ht, head?_append_of_front hne]
    exact hc

/-! ## 2. The next word -/

/-- **The next word** stands behind blanks, and the rest is empty or begins with one. -/
theorem nextWord_append {lead w rest : List Char} (hl : AllBlank lead) (hne : w ≠ [])
    (hw : NoBlank w) (hr : ∀ c ∈ rest.head?, isBlank c = true) :
    nextWord (lead ++ w ++ rest) = (w, rest) := by
  have ht : trimLeft (lead ++ w ++ rest) = w ++ rest := by
    rw [List.append_assoc]
    refine trimLeft_append hl ?_
    rw [head?_append_of_front hne]
    exact fun c hc => hw c (List.mem_of_mem_head? hc)
  have hw' : ∀ c ∈ w, (!isBlank c) = true := fun c hc => by simp [hw c hc]
  unfold nextWord
  rw [ht, List.takeWhile_append_of_pos hw', List.dropWhile_append_of_pos hw']
  cases rest with
  | nil => simp
  | cons c rest =>
    have hc : ¬ (!isBlank c) = true := by simp [hr c rfl]
    have ht : (c :: rest).takeWhile (!isBlank ·) = [] := List.takeWhile_cons_of_neg hc
    have hd : (c :: rest).dropWhile (!isBlank ·) = c :: rest := List.dropWhile_cons_of_neg hc
    rw [ht, hd, List.append_nil]

/-- Every text is blanks, its next word and a rest. -/
theorem exists_nextWord (cs : List Char) :
    ∃ lead, cs = lead ++ (nextWord cs).1 ++ (nextWord cs).2 ∧ AllBlank lead ∧
      NoBlank (nextWord cs).1 ∧ (∀ c ∈ (nextWord cs).2.head?, isBlank c = true) ∧
      ((nextWord cs).1 = [] → (nextWord cs).2 = []) := by
  obtain ⟨lead, he, hb, hc⟩ := exists_trimLeft cs
  refine ⟨lead, ?_, hb, ?_, ?_, ?_⟩
  · rw [List.append_assoc]
    unfold nextWord
    rw [List.takeWhile_append_dropWhile]
    exact he
  · intro c h
    have := List.mem_takeWhile_imp h
    simpa using this
  · intro c h
    have := List.head?_dropWhile_not (!isBlank ·) (trimLeft cs)
    simp only [nextWord, Option.mem_def] at h
    simpa [h] using this
  · intro h
    unfold nextWord at h ⊢
    cases ht : trimLeft cs with
    | nil => rfl
    | cons c rest =>
      rw [ht] at h hc
      rw [List.takeWhile_cons_of_pos (by simp [hc c rfl])] at h
      cases h

/-! ## 3. All words -/

/-- Blanks in front make no difference. -/
theorem words_lead {bs cs : List Char} (hb : AllBlank bs) : words (bs ++ cs) = words cs := by
  have h : nextWord (bs ++ cs) = nextWord cs := by
    unfold nextWord trimLeft
    rw [List.dropWhile_append_of_pos hb]
  rw [words.eq_1 (bs ++ cs), words.eq_1 cs, h]

@[simp] theorem words_nil : words [] = [] := by
  rw [words]
  rfl

/-- **The first word** of a text, and those of the rest. -/
theorem words_append {lead w rest : List Char} (hl : AllBlank lead) (hne : w ≠ [])
    (hw : NoBlank w) (hr : ∀ c ∈ rest.head?, isBlank c = true) :
    words (lead ++ w ++ rest) = w :: words rest := by
  have h := nextWord_append hl hne hw hr
  rw [words, h]
  exact dif_neg hne

/-- A text that begins with a word: the word, and the words of the rest. -/
theorem exists_first_word {cs : List Char} (hne : cs ≠ []) (hc : ∀ c ∈ cs.head?, isBlank c = false) :
    ∃ w rest, cs = w ++ rest ∧ w ≠ [] ∧ NoBlank w ∧ (∀ c ∈ rest.head?, isBlank c = true) ∧
      words cs = w :: words rest := by
  obtain ⟨lead, he, hl, hw, hr, h0⟩ := exists_nextWord cs
  have hlead : lead = [] := by
    cases lead with
    | nil => rfl
    | cons c lead =>
      have h1 := hc c (by rw [he]; rfl)
      rw [hl c List.mem_cons_self] at h1
      cases h1
  rw [hlead, List.nil_append] at he
  have hwne : (nextWord cs).1 ≠ [] := by
    intro h
    rw [h, h0 h] at he
    exact hne he
  have hws := words_append allBlank_nil hwne hw hr
  rw [List.nil_append, ← he] at hws
  exact ⟨_, _, he, hwne, hw, hr, hws⟩

/-- A text that begins with a blank and does not end with one: the blanks, and a text that begins
with a word. -/
theorem exists_gap {cs : List Char} (hne : cs ≠ []) (hb : ∀ c ∈ cs.head?, isBlank c = true)
    (hc : ∀ c ∈ cs.getLast?, isBlank c = false) :
    ∃ gap rest, cs = gap ++ rest ∧ gap ≠ [] ∧ AllBlank gap ∧ rest ≠ [] ∧ NoBlankEdge rest := by
  obtain ⟨gap, he, hg, hr⟩ := exists_trimLeft cs
  generalize trimLeft cs = rest at he hr
  have hrne : rest ≠ [] := by
    rintro rfl
    rw [List.append_nil] at he
    have h1 := hc _ (List.getLast?_eq_some_getLast hne)
    rw [hg _ (he ▸ List.getLast_mem hne)] at h1
    cases h1
  refine ⟨gap, rest, he, gap_ne_nil (he ▸ hb) hrne hr, hg, hrne, hr, ?_⟩
  · intro c h
    refine hc c ?_
    rw [he, List.getLast?_append, Option.mem_def.1 h]
    rfl

end DeviceSampling.Text
