/-
# Lines without a boundary in them

A text that holds no line boundary is one line, and such lines that are joined by line feeds are
read back as they were.

* `OneLine`: characters without a line boundary;
* `lines_append_lineFeed`: a line feed ends a line;
* `lines_intercalate`: **lines joined by line feeds are read back.**
-/
import DeviceSampling.Text.Line

namespace DeviceSampling

open Text

/-! ## 1. Characters without a boundary -/

/-- The text holds no line boundary. -/
def OneLine (cs : List Char) : Prop := ∀ c ∈ cs, isBoundary c = false

theorem all_eq_true_iff_oneLine {cs : List Char} : cs.all (!isBoundary ·) = true ↔ OneLine cs := by
  simp [OneLine]

instance (cs : List Char) : Decidable (OneLine cs) :=
  decidable_of_iff _ all_eq_true_iff_oneLine

theorem OneLine.append {cs ds : List Char} (hc : OneLine cs) (hd : OneLine ds) :
    OneLine (cs ++ ds) := fun c h => (List.mem_append.1 h).elim (hc c) (hd c)

variable {c : Char} {cs ds : List Char}

@[simp] theorem oneLine_nil : OneLine [] := by simp [OneLine]

@[simp] theorem oneLine_cons : OneLine (c :: cs) ↔ isBoundary c = false ∧ OneLine cs := by
  simp [OneLine]

@[simp] theorem oneLine_append : OneLine (cs ++ ds) ↔ OneLine cs ∧ OneLine ds := by
  simp [OneLine, or_imp, forall_and]

theorem OneLine.of_subset (h : OneLine ds) (hs : cs ⊆ ds) : OneLine cs := fun c hc => h c (hs hc)

theorem oneLine_replicate (n : Nat) (h : isBoundary c = false) : OneLine (List.replicate n c) := by
  intro d hd
  rw [List.eq_of_mem_replicate hd]
  exact h

theorem oneLine_flatMap {α : Type} {xs : List α} {f : α → List Char} (h : ∀ x ∈ xs, OneLine (f x)) :
    OneLine (xs.flatMap f) := by
  intro c hc
  obtain ⟨x, hx, hc⟩ := List.mem_flatMap.1 hc
  exact h x hx c hc

/-- Parts without a boundary, joined by one. -/
theorem oneLine_intercalate {sep : List Char} {parts : List (List Char)} (hsep : OneLine sep)
    (h : ∀ part ∈ parts, OneLine part) : OneLine (List.intercalate sep parts) := by
  induction parts with
  | nil => exact oneLine_nil
  | cons part parts ih =>
    rw [List.forall_mem_cons] at h
    cases parts with
    | nil => simpa [List.intercalate] using h.1
    | cons next parts =>
      have hcut : List.intercalate sep (part :: next :: parts) =
          part ++ (sep ++ List.intercalate sep (next :: parts)) := by
        simp [List.intercalate]
      rw [hcut, oneLine_append, oneLine_append]
      exact ⟨h.1, hsep, ih h.2⟩

/-! ## 2. Lines -/

/-- A line feed ends a line. -/
theorem lines_append_lineFeed (rest : List Char) : ∀ l : List Char,
    (∀ c ∈ l, isBoundary c = false) → lines (l ++ '\n' :: rest) = l :: lines rest
  | [], _ => rfl
  | c :: l, h => by
    have ih := lines_append_lineFeed rest l fun d hd => h d (List.mem_cons_of_mem _ hd)
    have hc : isBoundary c = false := h c List.mem_cons_self
    -- a carriage return is a boundary itself, so it cannot stand in front of the line feed
    have hr : c ≠ '\r' := by
      rintro rfl
      exact absurd hc (by decide)
    rw [List.cons_append, lines, if_neg (by rw [hc]; decide), ih]
    · rfl
    · exact fun _ h => absurd h hr

/-- A text without a boundary is one line. -/
theorem lines_of_oneLine (h : OneLine cs) (hne : cs ≠ []) : lines cs = [cs] := by
  induction cs with
  | nil => exact absurd rfl hne
  | cons c cs ih =>
    rw [oneLine_cons] at h
    have hr : c ≠ '\r' := by
      rintro rfl
      exact absurd h.1 (by decide)
    rw [lines, if_neg (by simp [h.1])]
    · cases cs with
      | nil => rfl
      | cons d ds => rw [ih h.2 (List.cons_ne_nil _ _), consFirst]
    · exact fun _ h => absurd h hr

/-- **Lines that are joined by line feeds are read back,** if the last one is not empty. -/
theorem lines_intercalate : ∀ {ls : List (List Char)}, (∀ l ∈ ls, OneLine l ∧ l ≠ []) →
    lines (List.intercalate ['\n'] ls) = ls
  | [], _ => rfl
  | [l], h => by
    obtain ⟨hl, hne⟩ := h l List.mem_cons_self
    simpa [List.intercalate] using lines_of_oneLine hl hne
  | l :: l' :: ls, h => by
    have ih := lines_intercalate fun m hm => h m (List.mem_cons_of_mem l hm)
    have hcut : List.intercalate ['\n'] (l :: l' :: ls) =
        l ++ '\n' :: List.intercalate ['\n'] (l' :: ls) := by
      simp [List.intercalate]
    rw [hcut, lines_append_lineFeed _ l (h l List.mem_cons_self).1, ih]

end DeviceSampling
