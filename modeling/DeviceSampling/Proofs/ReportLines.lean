/-
# What a report line is

`ReportLine.read` scans a line.  Here the kinds of line are said by how a line is made up: a
header is a label, a colon and a space, and a value up to a further colon and space; a row has a
percent sign and no colon and space, and is two words and a symbol with blanks between them.

* `FirstCut`: a text at the first occurrence of a separator; `cutAt_eq_some_iff`;
* `Header`, `Row`, `RowFields`, `WantedRow`: the two kinds of line that count;
* `ReadsAs`, `read_readsAs`, `ReadsAs.read_eq`: what `ReportLine.read` makes of a line.
-/
import DeviceSampling.Proofs.Blanks
import DeviceSampling.Report.Line

namespace DeviceSampling

open Text

/-! ## 1. The first occurrence of a separator -/

/-- The text is `before`, the separator and `after`, and the separator occurs nowhere earlier. -/
def FirstCut (separator cs before after : List Char) : Prop :=
  cs = before ++ separator ++ after ∧
    ∀ before' after', cs = before' ++ separator ++ after' → before.length ≤ before'.length

/-- A first cut is at the one place. -/
theorem FirstCut.unique {separator cs before after before' after' : List Char}
    (h : FirstCut separator cs before after) (h' : FirstCut separator cs before' after') :
    before = before' ∧ after = after' := by
  have hlen : before.length = before'.length :=
    Nat.le_antisymm (h.2 _ _ h'.1) (h'.2 _ _ h.1)
  have he : before ++ (separator ++ after) = before' ++ (separator ++ after') := by
    rw [← List.append_assoc, ← List.append_assoc, ← h.1, ← h'.1]
  obtain ⟨hb, hr⟩ := List.append_inj he hlen
  exact ⟨hb, List.append_cancel_left hr⟩

/-- **`cutAt` cuts at the first occurrence,** if there is one. -/
theorem cutAt_spec {separator : List Char} (hne : separator ≠ []) : ∀ cs : List Char,
    match cutAt separator cs with
    | some (before, after) => FirstCut separator cs before after
    | none => ¬ separator <:+: cs
  | [] => by
    intro h
    exact hne (List.infix_nil.1 h)
  | c :: rest => by
    have ih := cutAt_spec hne rest
    unfold cutAt
    by_cases hp : separator.isPrefixOf (c :: rest) = true
    · rw [if_pos hp]
      obtain ⟨after, ha⟩ := List.isPrefixOf_iff_prefix.1 hp
      refine ⟨?_, fun _ _ _ => Nat.zero_le _⟩
      rw [← ha, List.drop_left, List.nil_append]
    · rw [if_neg hp]
      have hpre : ¬ separator <+: c :: rest := fun h => hp (List.isPrefixOf_iff_prefix.2 h)
      cases hc : cutAt separator rest with
      | none =>
        rw [hc] at ih
        intro h
        rcases List.infix_cons_iff.1 h with h | h
        · exact hpre h
        · exact ih h
      | some p =>
        rw [hc] at ih
        obtain ⟨he, hmin⟩ := ih
        refine ⟨by rw [he]; rfl, fun before' after' h => ?_⟩
        cases before' with
        | nil => exact absurd ⟨after', h.symm⟩ hpre
        | cons d before' =>
          rw [List.cons_append, List.cons_append, List.cons.injEq] at h
          exact Nat.succ_le_succ (hmin before' after' h.2)

theorem cutAt_eq_some_iff {separator cs before after : List Char} (hne : separator ≠ []) :
    cutAt separator cs = some (before, after) ↔ FirstCut separator cs before after := by
  have hs := cutAt_spec hne cs
  constructor
  · intro h
    rwa [h] at hs
  · intro h
    cases hc : cutAt separator cs with
    | none =>
      rw [hc] at hs
      exact absurd ⟨before, after, h.1.symm⟩ hs
    | some p =>
      rw [hc] at hs
      obtain ⟨hb, ha⟩ := FirstCut.unique hs h
      rw [← hb, ← ha]

theorem cutAt_eq_none_iff {separator cs : List Char} (hne : separator ≠ []) :
    cutAt separator cs = none ↔ ¬ separator <:+: cs := by
  have hs := cutAt_spec hne cs
  constructor
  · intro h
    rwa [h] at hs
  · intro h
    cases hc : cutAt separator cs with
    | none => rfl
    | some p =>
      rw [hc] at hs
      exact absurd ⟨p.1, p.2, hs.1.symm⟩ h

/-- The piece of a text up to the first occurrence of a separator, or all of it. -/
def FirstPiece (separator cs piece : List Char) : Prop :=
  (∃ after, FirstCut separator cs piece after) ∨ (¬ separator <:+: cs ∧ piece = cs)

theorem upTo_eq_iff {separator cs piece : List Char} (hne : separator ≠ []) :
    upTo separator cs = piece ↔ FirstPiece separator cs piece := by
  have hs := cutAt_spec hne cs
  unfold upTo
  cases hc : cutAt separator cs with
  | none =>
    rw [hc] at hs
    constructor
    · rintro rfl
      exact Or.inr ⟨hs, rfl⟩
    · rintro (⟨after, h, -⟩ | ⟨-, rfl⟩)
      · exact absurd ⟨piece, after, h.symm⟩ hs
      · rfl
  | some p =>
    rw [hc] at hs
    constructor
    · rintro rfl
      exact Or.inl ⟨p.2, hs⟩
    · rintro (⟨after, h⟩ | ⟨h, -⟩)
      · exact (FirstCut.unique hs h).1
      · exact absurd ⟨p.1, p.2, hs.1.symm⟩ h

/-- Up to one character. -/
theorem upTo_singleton (c : Char) : ∀ cs : List Char, upTo [c] cs = cs.takeWhile (· ≠ c)
  | [] => rfl
  | d :: rest => by
    have ih := upTo_singleton c rest
    unfold upTo at ih ⊢
    unfold cutAt
    by_cases hd : d = c
    · subst hd
      have hp : ([d] : List Char).isPrefixOf (d :: rest) = true := by simp [List.isPrefixOf]
      rw [if_pos hp, List.takeWhile_cons_of_neg (by simp)]
    · have hp : ¬ ([c] : List Char).isPrefixOf (d :: rest) = true := by
        simp [List.isPrefixOf, Ne.symm hd]
      rw [if_neg hp, List.takeWhile_cons_of_pos (by simpa using hd), ← ih]
      cases cutAt [c] rest with
      | none => rfl
      | some p => rfl

/-! ## 2. Headers -/

/-- **A header,** with its label and its value: the first two of the pieces between colons with a
space. -/
def Header (line label value : List Char) : Prop :=
  ∃ rest, FirstCut [':', ' '] line label rest ∧ FirstPiece [':', ' '] rest value

/-- A header has one label and one value. -/
theorem Header.unique {line label label' value value' : List Char} (h : Header line label value)
    (h' : Header line label' value') : label = label' ∧ value = value' := by
  obtain ⟨rest, hc, hp⟩ := h
  obtain ⟨rest', hc', hp'⟩ := h'
  obtain ⟨rfl, rfl⟩ := hc.unique hc'
  have hne : ([':', ' '] : List Char) ≠ [] := List.cons_ne_nil _ _
  exact ⟨rfl, ((upTo_eq_iff hne).2 hp).symm.trans ((upTo_eq_iff hne).2 hp')⟩

/-- A line is a header exactly if a colon and a space occur in it. -/
theorem exists_header_iff {line : List Char} :
    (∃ label value, Header line label value) ↔ [':', ' '] <:+: line := by
  have hne : ([':', ' '] : List Char) ≠ [] := List.cons_ne_nil _ _
  constructor
  · rintro ⟨label, value, rest, hc, -⟩
    exact ⟨label, rest, hc.1.symm⟩
  · intro h
    cases hc : cutAt [':', ' '] line with
    | none => exact absurd h ((cutAt_eq_none_iff hne).1 hc)
    | some p =>
      exact ⟨p.1, _, p.2, (cutAt_eq_some_iff hne).1 hc, (upTo_eq_iff hne).1 rfl⟩

/-! ## 3. Rows -/

/-- The fields of a row: two words with blanks in front of each, and a symbol that is the rest of
the line without the blanks around it. -/
def RowFields (line percentage symbol : List Char) : Prop :=
  ∃ lead gap word gap' trail,
    line = lead ++ percentage ++ (gap ++ word ++ (gap' ++ symbol ++ trail)) ∧
    AllBlank lead ∧ percentage ≠ [] ∧ NoBlank percentage ∧
    gap ≠ [] ∧ AllBlank gap ∧ word ≠ [] ∧ NoBlank word ∧
    gap' ≠ [] ∧ AllBlank gap' ∧ symbol ≠ [] ∧ NoBlankEdge symbol ∧ AllBlank trail

/-- **A row:** no header, and a percent sign somewhere. -/
def Row (line : List Char) : Prop := ¬ [':', ' '] <:+: line ∧ '%' ∈ line

/-- **`threeFields` finds the fields of a row,** if there are three. -/
theorem threeFields_eq_some_iff {line percentage symbol : List Char} :
    (∃ word, threeFields line = some (percentage, word, symbol)) ↔
      RowFields line percentage symbol := by
  constructor
  · rintro ⟨word, h⟩
    simp only [threeFields] at h
    split at h
    · cases h
    · next hne =>
      cases h
      obtain ⟨lead, hl, hlb, hp, hpr, hp0⟩ := exists_nextWord line
      obtain ⟨gap, hg, hgb, hw, hwr, hw0⟩ := exists_nextWord (nextWord line).2
      obtain ⟨gap', trail, ht, hgb', htb, hs⟩ := exists_trim (nextWord (nextWord line).2).2
      rw [Bool.not_eq_true, List.isEmpty_eq_false_iff] at hne
      generalize nextWord line = first at *
      generalize nextWord first.2 = second at *
      generalize trim second.2 = symbol at *
      -- a symbol that is not empty needs a word before it, and that word another
      have hr2 : second.2 ≠ [] := fun h => hne (by
        rw [h] at ht
        exact (List.append_eq_nil_iff.1 (List.append_eq_nil_iff.1 ht.symm).1).2)
      have hw2 : second.1 ≠ [] := fun h => hr2 (hw0 h)
      have hr1 : first.2 ≠ [] := fun h => hw2 (by
        rw [h] at hg
        exact (List.append_eq_nil_iff.1 (List.append_eq_nil_iff.1 hg.symm).1).2)
      have hp2 : first.1 ≠ [] := fun h => hr1 (hp0 h)
      have hgne : gap ≠ [] := by
        refine gap_ne_nil ?_ (List.append_ne_nil_of_left_ne_nil hw2 second.2) ?_
        · rw [← List.append_assoc, ← hg]
          exact hpr
        · rw [head?_append_of_front hw2]
          exact fun c hc => hw c (List.mem_of_mem_head? hc)
      have hgne' : gap' ≠ [] := by
        refine gap_ne_nil ?_ (List.append_ne_nil_of_left_ne_nil hne trail) ?_
        · rw [← List.append_assoc, ← ht]
          exact hwr
        · rw [head?_append_of_front hne]
          exact hs.1
      refine ⟨lead, gap, second.1, gap', trail, ?_, hlb, hp2, hp, hgne, hgb, hw2, hw, hgne', hgb', hne, hs, htb⟩
      rw [← ht, ← hg]
      exact hl
  · rintro ⟨lead, gap, word, gap', trail, rfl, hlb, hpne, hp, hgne, hgb, hwne, hw, hgne', hgb', hne, hs, htb⟩
    have h1 : nextWord (lead ++ percentage ++ (gap ++ word ++ (gap' ++ symbol ++ trail))) =
        (percentage, gap ++ word ++ (gap' ++ symbol ++ trail)) := by
      refine nextWord_append hlb hpne hp ?_
      rw [List.append_assoc]
      exact head_gap hgne hgb _
    have h2 : nextWord (gap ++ word ++ (gap' ++ symbol ++ trail)) =
        (word, gap' ++ symbol ++ trail) := by
      refine nextWord_append hgb hwne hw ?_
      rw [List.append_assoc]
      exact head_gap hgne' hgb' _
    refine ⟨word, ?_⟩
    unfold threeFields
    rw [h1]
    dsimp only
    rw [h2]
    dsimp only
    rw [trim_append hgb' htb hs]
    exact if_neg (fun h => hne (List.isEmpty_iff.1 h))

/-- A row has one percentage and one symbol. -/
theorem RowFields.unique {line percentage percentage' symbol symbol' : List Char}
    (h : RowFields line percentage symbol) (h' : RowFields line percentage' symbol') :
    percentage = percentage' ∧ symbol = symbol' := by
  obtain ⟨word, h⟩ := threeFields_eq_some_iff.2 h
  obtain ⟨word', h'⟩ := threeFields_eq_some_iff.2 h'
  rw [h] at h'
  cases h'
  exact ⟨rfl, rfl⟩

/-- A row of a wanted symbol, with its percentage. -/
def WantedRow (wanted : List String) (line percentage : List Char) : Prop :=
  Row line ∧ ∃ symbol, RowFields line percentage symbol ∧ String.ofList symbol ∈ wanted

/-- A row of a symbol that is not wanted is none of a wanted one. -/
theorem not_wantedRow {wanted : List String} {line percentage symbol : List Char}
    (h : RowFields line percentage symbol) (hw : String.ofList symbol ∉ wanted)
    (percentage' : List Char) : ¬ WantedRow wanted line percentage' := by
  rintro ⟨-, symbol', h', hw'⟩
  rw [(h.unique h').2] at hw
  exact hw hw'

/-! ## 4. The kinds of line -/

/-- **What a line is read as,** by how it is made up. -/
inductive ReadsAs (line : List Char) : ReportLine → Prop
  | event {value} : Header line "Event".toList value →
      ReadsAs line (.event (String.ofList (value.takeWhile (· ≠ ' '))))
  | total {value} : Header line "Event count".toList value →
      ReadsAs line (.total (String.ofList (trim value)))
  | otherHeader {label value} : Header line label value → label ≠ "Event".toList →
      label ≠ "Event count".toList → ReadsAs line .other
  | row {percentage symbol} : Row line → RowFields line percentage symbol →
      ReadsAs line (.row (String.ofList percentage) (String.ofList symbol))
  | shortRow : Row line → (∀ percentage symbol, ¬ RowFields line percentage symbol) →
      ReadsAs line .shortRow
  | plain : ¬ [':', ' '] <:+: line → '%' ∉ line → ReadsAs line .other

/-- A header is read by its label. -/
theorem readsAs_ofHeader {line label value : List Char} (h : Header line label value)
    {rest : List Char} (hv : upTo ReportLine.headerSeparator rest = value) :
    ReadsAs line (ReportLine.ofHeader label rest) := by
  simp only [ReportLine.ofHeader]
  rw [hv]
  split
  · next hl =>
    subst hl
    rw [upTo_singleton]
    exact .event h
  · next hl =>
    split
    · next hl' =>
      subst hl'
      exact .total h
    · next hl' => exact .otherHeader h hl hl'

/-- **Every line is read as what it is.** -/
theorem read_readsAs (line : List Char) : ReadsAs line (ReportLine.read line) := by
  have hne : ReportLine.headerSeparator ≠ [] := List.cons_ne_nil _ _
  unfold ReportLine.read
  split
  · next label rest hc =>
    have hh : Header line label (upTo ReportLine.headerSeparator rest) :=
      ⟨rest, (cutAt_eq_some_iff hne).1 hc, (upTo_eq_iff hne).1 rfl⟩
    exact readsAs_ofHeader hh rfl
  · next hc =>
    have hh : ¬ [':', ' '] <:+: line := (cutAt_eq_none_iff hne).1 hc
    split
    · next hp =>
      have hrow : Row line := ⟨hh, List.contains_iff_mem.1 hp⟩
      split
      · next percentage word symbol hf =>
        exact .row hrow (threeFields_eq_some_iff.1 ⟨word, hf⟩)
      · next hf =>
        refine .shortRow hrow fun percentage symbol hr => ?_
        obtain ⟨word, hw⟩ := threeFields_eq_some_iff.2 hr
        rw [hf] at hw
        cases hw
    · next hp => exact .plain hh fun h => hp (List.contains_iff_mem.2 h)

/-- A line is read as one thing. -/
theorem ReadsAs.read_eq {line : List Char} {read : ReportLine} (h : ReadsAs line read) :
    ReportLine.read line = read := by
  have hne : ReportLine.headerSeparator ≠ [] := List.cons_ne_nil _ _
  have hheader : ∀ {label value}, Header line label value → ∃ rest,
      ReportLine.read line = ReportLine.ofHeader label rest ∧
        upTo ReportLine.headerSeparator rest = value := by
    rintro label value ⟨rest, hc, hv⟩
    refine ⟨rest, ?_, (upTo_eq_iff hne).2 hv⟩
    unfold ReportLine.read
    rw [(cutAt_eq_some_iff hne).2 hc]
  have hrow : Row line → ∀ fields, threeFields line = fields → ReportLine.read line =
      (fields.map fun f => ReportLine.row (String.ofList f.1) (String.ofList f.2.2)).getD
        .shortRow := by
    rintro ⟨hno, hp⟩ fields hf
    unfold ReportLine.read
    rw [(cutAt_eq_none_iff hne).2 hno, hf]
    cases fields with
    | none => exact if_pos (List.contains_iff_mem.2 hp)
    | some f => exact if_pos (List.contains_iff_mem.2 hp)
  cases h with
  | event hh =>
    obtain ⟨rest, hr, hv⟩ := hheader hh
    rw [hr, ReportLine.ofHeader, if_pos rfl, hv, upTo_singleton]
  | total hh =>
    obtain ⟨rest, hr, hv⟩ := hheader hh
    rw [hr, ReportLine.ofHeader, if_neg (by decide), if_pos rfl, hv]
  | otherHeader hh hl hl' =>
    obtain ⟨rest, hr, hv⟩ := hheader hh
    rw [hr, ReportLine.ofHeader, if_neg hl, if_neg hl']
  | row h hf =>
    obtain ⟨word, hw⟩ := threeFields_eq_some_iff.2 hf
    exact hrow h _ hw
  | shortRow h hno =>
    cases hf : threeFields line with
    | none => exact hrow h _ hf
    | some fields => exact absurd (threeFields_eq_some_iff.1 ⟨_, hf⟩) (hno _ _)
  | plain hno hp =>
    unfold ReportLine.read
    rw [(cutAt_eq_none_iff hne).2 hno]
    exact if_neg fun h => hp (List.contains_iff_mem.1 h)

theorem read_eq_event_iff {line : List Char} {name : String} :
    ReportLine.read line = .event name ↔
      ∃ value, Header line "Event".toList value ∧ name = String.ofList (value.takeWhile (· ≠ ' ')) := by
  constructor
  · intro h
    have hr := read_readsAs line
    rw [h] at hr
    cases hr with
    | event hh => exact ⟨_, hh, rfl⟩
  · rintro ⟨value, hh, rfl⟩
    exact (ReadsAs.event hh).read_eq

theorem read_eq_total_iff {line : List Char} {text : String} :
    ReportLine.read line = .total text ↔
      ∃ value, Header line "Event count".toList value ∧ text = String.ofList (trim value) := by
  constructor
  · intro h
    have hr := read_readsAs line
    rw [h] at hr
    cases hr with
    | total hh => exact ⟨_, hh, rfl⟩
  · rintro ⟨value, hh, rfl⟩
    exact (ReadsAs.total hh).read_eq

theorem read_eq_row_iff {line : List Char} {percentage symbol : String} :
    ReportLine.read line = .row percentage symbol ↔
      Row line ∧ RowFields line percentage.toList symbol.toList := by
  constructor
  · intro h
    have hr := read_readsAs line
    rw [h] at hr
    cases hr with
    | row hrow hf => rwa [String.toList_ofList, String.toList_ofList, and_iff_right hrow]
  · rintro ⟨hrow, hf⟩
    have hr := (ReadsAs.row hrow hf).read_eq
    rwa [String.ofList_toList, String.ofList_toList] at hr

/-- A header is no row. -/
theorem not_row_of_header {line label value : List Char} (h : Header line label value) :
    ¬ Row line := fun hr => hr.1 (exists_header_iff.1 ⟨label, value, h⟩)

end DeviceSampling
