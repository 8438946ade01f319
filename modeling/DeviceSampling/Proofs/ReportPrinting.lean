/-
# A printed report is read as what was printed

A report is printed from blocks, one for each event: a header with its name, a header with its
total, and rows.  Other headers, blank lines and the heading of the columns stand before and among
them, and the columns are as wide as one likes.  A report is given here by its parts, each with what
keeps it from being taken for something else, and what it means is told block by block.

* `Blanks`, `OtherHeader`, `Heading`, `PrintedRow`, `EventBlock`, `PrintedReport`: the parts;
* `Filler.ignored`, `PrintedRow.readsAs`, `EventBlock.readsAs_event`, `EventBlock.readsAs_total`:
  what each line is read as;
* `PrintedReport.metrics`: what is written, block by block in order;
* `parseReport_printed`: **reading undoes printing.**
-/
import DeviceSampling.Proofs.DoubleRange
import DeviceSampling.Proofs.Numerals
import DeviceSampling.Proofs.ReportGrammar

namespace DeviceSampling

open Text

/-! ## 1. Where no separator stands -/

/-- A text without a separator is put in front of the first piece, unless the two make one. -/
theorem cutAt_append {front rest : List Char} (hf : ¬ [':', ' '] <:+: front)
    (hedge : front.getLast? = some ':' → rest.head? ≠ some ' ') :
    cutAt [':', ' '] (front ++ rest) =
      (cutAt [':', ' '] rest).map fun p => (front ++ p.1, p.2) := by
  induction front with
  | nil => simp
  | cons c front ih =>
    have hf' : ¬ [':', ' '] <:+: front := fun h => hf (List.infix_cons_iff.2 (Or.inr h))
    have hedge' : front.getLast? = some ':' → rest.head? ≠ some ' ' := by
      intro h
      refine hedge ?_
      rw [List.getLast?_cons, h]
      rfl
    have hnot : ¬ List.isPrefixOf [':', ' '] (c :: (front ++ rest)) = true := by
      intro h
      obtain ⟨tail, ht⟩ := List.isPrefixOf_iff_prefix.1 h
      obtain ⟨rfl, hspace⟩ := List.cons.inj ht
      cases front with
      | nil => exact hedge rfl (by rw [← List.nil_append rest, ← hspace]; rfl)
      | cons d front =>
        obtain ⟨rfl, -⟩ := List.cons.inj hspace
        exact hf (List.prefix_append _ front).isInfix
    rw [List.cons_append, cutAt, if_neg hnot, ih hf' hedge', Option.map_map]
    rfl

/-- A text without a separator belongs to the first piece. -/
theorem upTo_append {front rest : List Char} (hf : ¬ [':', ' '] <:+: front)
    (hedge : front.getLast? = some ':' → rest.head? ≠ some ' ') :
    upTo [':', ' '] (front ++ rest) = front ++ upTo [':', ' '] rest := by
  unfold upTo
  rw [cutAt_append hf hedge]
  cases cutAt [':', ' '] rest with
  | none => rfl
  | some p => rfl

theorem upTo_space (cs : List Char) :
    upTo [':', ' '] (' ' :: cs) = ' ' :: upTo [':', ' '] cs := by
  have h : ¬ [':', ' '] <:+: [' '] := by decide
  exact upTo_append h fun he => by cases he

/-- Two texts without a separator make none, unless one ends with a colon and the other begins
with a space. -/
theorem not_infix_append {front rest : List Char} (hf : ¬ [':', ' '] <:+: front)
    (hr : ¬ [':', ' '] <:+: rest) (hedge : front.getLast? = some ':' → rest.head? ≠ some ' ') :
    ¬ [':', ' '] <:+: front ++ rest := by
  have hne : ([':', ' '] : List Char) ≠ [] := List.cons_ne_nil _ _
  rw [← cutAt_eq_none_iff hne, cutAt_append hf hedge, (cutAt_eq_none_iff hne).2 hr]
  rfl

/-- A text without a colon holds no separator. -/
theorem not_infix_of_not_mem {cs : List Char} (h : ':' ∉ cs) : ¬ [':', ' '] <:+: cs :=
  fun hi => h (hi.subset List.mem_cons_self)

/-- **A label without a separator** is the label of its header, and the value is the rest up to a
further separator. -/
theorem header_of_label {label : List Char} (h : ¬ [':', ' '] <:+: label) (rest : List Char) :
    Header (label ++ [':', ' '] ++ rest) label (upTo [':', ' '] rest) := by
  have hne : ([':', ' '] : List Char) ≠ [] := List.cons_ne_nil _ _
  have hcut : cutAt [':', ' '] ([':', ' '] ++ rest) = some ([], rest) := by simp [cutAt]
  refine ⟨rest, (cutAt_eq_some_iff hne).1 ?_, (upTo_eq_iff hne).1 rfl⟩
  rw [List.append_assoc, cutAt_append h (fun _ => by simp), hcut, Option.map_some, List.append_nil]

/-! ## 2. Parts of a line -/

/-- There is nothing to trim from plain characters. -/
theorem trim_of_plain {cs : List Char} (h : ∀ c ∈ cs, c ∈ plainChars) : trim cs = cs := by
  have hedge : NoBlankEdge cs :=
    ⟨fun c hc => isBlank_of_plain c (h c (List.mem_of_mem_head? hc)),
      fun c hc => isBlank_of_plain c (h c (List.mem_of_getLast? hc))⟩
  simpa using trim_append allBlank_nil allBlank_nil hedge

/-- Blanks within a line. -/
structure Blanks where
  chars : List Char
  allBlank : AllBlank chars
  oneLine : OneLine chars

namespace Blanks

/-- As many spaces. -/
def spaces (n : Nat) : Blanks where
  chars := List.replicate n ' '
  allBlank c hc := by
    rw [List.eq_of_mem_replicate hc]
    decide
  oneLine c hc := by
    rw [List.eq_of_mem_replicate hc]
    decide

/-- What is not blank is not among blanks. -/
theorem not_mem (bs : Blanks) {c : Char} (h : isBlank c = false) : c ∉ bs.chars := by
  intro hc
  rw [bs.allBlank c hc] at h
  cases h

end Blanks

/-! ## 3. Lines without a say -/

/-- A header of another label. -/
structure OtherHeader where
  label : List Char
  value : List Char
  noSeparator : ¬ [':', ' '] <:+: label
  noEvent : label ≠ "Event".toList
  noTotal : label ≠ "Event count".toList
  labelOneLine : OneLine label
  valueOneLine : OneLine value

/-- The heading of the columns. -/
structure Heading where
  lead : Blanks
  gap : Blanks
  gap' : Blanks
  trail : Blanks

/-- **A line without a say.** -/
inductive Filler where
  | header (h : OtherHeader)
  | blank (bs : Blanks)
  | heading (h : Heading)

namespace Filler

def line : Filler → List Char
  | header h => h.label ++ [':', ' '] ++ h.value
  | blank bs => bs.chars
  | heading h => h.lead.chars ++ ("Overhead".toList ++ (h.gap.chars ++ ("Pid".toList ++
      (h.gap'.chars ++ ("Symbol".toList ++ h.trail.chars)))))

/-- A line of blanks and words without a colon and a percent sign says nothing. -/
theorem ignored_of_not_mem (wanted : List String) {line : List Char} (hc : ':' ∉ line)
    (hp : '%' ∉ line) : Ignored wanted line := .plain (not_infix_of_not_mem hc) hp

theorem ignored (f : Filler) (wanted : List String) : Ignored wanted f.line := by
  cases f with
  | header h => exact .header (header_of_label h.noSeparator h.value) h.noEvent h.noTotal
  | blank bs => exact ignored_of_not_mem wanted (bs.not_mem (by decide)) (bs.not_mem (by decide))
  | heading h =>
    have hcolon := fun bs : Blanks => bs.not_mem (c := ':') (by decide)
    have hpercent := fun bs : Blanks => bs.not_mem (c := '%') (by decide)
    refine ignored_of_not_mem wanted ?_ ?_
    · simp [line, hcolon]
    · simp [line, hpercent]

theorem oneLine (f : Filler) : OneLine f.line := by
  cases f with
  | header h =>
    have hseparator : OneLine [':', ' '] := by decide
    exact (h.labelOneLine.append hseparator).append h.valueOneLine
  | blank bs => exact bs.oneLine
  | heading h =>
    have hword : ∀ word ∈ ["Overhead", "Pid", "Symbol"], OneLine word.toList := by decide
    exact h.lead.oneLine.append ((hword _ (by simp)).append (h.gap.oneLine.append
      ((hword _ (by simp)).append (h.gap'.oneLine.append
        ((hword _ (by simp)).append h.trail.oneLine)))))

end Filler

/-! ## 4. Rows -/

/-- Whether a double is a number. -/
def Binary64.isFinite : Binary64 → Bool
  | .finite .. => true
  | _ => false

/-- **A row:** a percentage, digits for a process and a symbol, with blanks between and around
them. -/
structure PrintedRow where
  percentage : Decimal
  pid : Digits
  symbol : String
  lead : Blanks
  gap : Blanks
  gap' : Blanks
  trail : Blanks
  finite : percentage.value.isFinite = true
  hasPid : pid ≠ []
  hasSymbol : symbol ≠ ""
  stripped : strip symbol = symbol
  oneLine : OneLine symbol.toList
  noSeparator : ¬ [':', ' '] <:+: symbol.toList
  noColon : symbol.toList.getLast? ≠ some ':'
  hasGap : gap.chars ≠ []
  hasGap' : gap'.chars ≠ []

namespace PrintedRow

/-- The percentage with its sign. -/
def field (r : PrintedRow) : List Char := r.percentage.text ++ ['%']

def line (r : PrintedRow) : List Char :=
  r.lead.chars ++ r.field ++ (r.gap.chars ++ r.pid.text ++ (r.gap'.chars ++ r.symbol.toList ++
    r.trail.chars))

theorem noBlank_field (r : PrintedRow) : NoBlank r.field := by
  intro c hc
  rcases List.mem_append.1 hc with hc | hc
  · exact isBlank_of_plain c (Decimal.plain_of_mem hc)
  · rw [List.mem_singleton.1 hc]
    decide

theorem plain_of_mem_pid {r : PrintedRow} {c : Char} (h : c ∈ r.pid.text) : c ∈ plainChars :=
  mem_plainChars_of_isDigit (Digits.isDigit_of_mem h)

theorem oneLine_line (r : PrintedRow) : OneLine r.line := by
  have hpercent : OneLine ['%'] := by decide
  have hfield : OneLine r.field := (oneLine_of_plain fun c => Decimal.plain_of_mem).append hpercent
  have hpid : OneLine r.pid.text := oneLine_of_plain fun c => plain_of_mem_pid
  exact (r.lead.oneLine.append hfield).append ((r.gap.oneLine.append hpid).append
    ((r.gap'.oneLine.append r.oneLine).append r.trail.oneLine))

/-- No separator stands in a row: only the symbol holds colons. -/
theorem noSeparator_line (r : PrintedRow) : ¬ [':', ' '] <:+: r.line := by
  have hblanks : ∀ bs : Blanks, ':' ∉ bs.chars := fun bs => bs.not_mem (by decide)
  have hplain : ∀ {cs : List Char}, (∀ c ∈ cs, c ∈ plainChars) → ':' ∉ cs := by
    intro cs h hc
    exact (ne_of_plain ':' (h ':' hc)).2.1 rfl
  have hpercentage : ':' ∉ r.percentage.text := hplain fun c => Decimal.plain_of_mem
  have hpid : ':' ∉ r.pid.text := hplain fun c => plain_of_mem_pid
  have hfront : ':' ∉ r.lead.chars ++ r.field ++ (r.gap.chars ++ r.pid.text ++ r.gap'.chars) := by
    simp [field, hblanks, hpercentage, hpid]
  have hback : ¬ [':', ' '] <:+: r.symbol.toList ++ r.trail.chars :=
    not_infix_append r.noSeparator (not_infix_of_not_mem (hblanks r.trail))
      fun h => absurd h r.noColon
  have hline : r.line = (r.lead.chars ++ r.field ++ (r.gap.chars ++ r.pid.text ++ r.gap'.chars)) ++
      (r.symbol.toList ++ r.trail.chars) := by
    unfold line
    simp only [List.append_assoc]
  rw [hline]
  exact not_infix_append (not_infix_of_not_mem hfront) hback
    fun h => absurd (List.mem_of_getLast? h) hfront

/-- A symbol that is its own strip has no blank ends. -/
theorem noBlankEdge_symbol (r : PrintedRow) : NoBlankEdge r.symbol.toList := by
  obtain ⟨-, -, -, -, -, hedge⟩ := exists_trim r.symbol.toList
  have htrim : trim r.symbol.toList = r.symbol.toList := by
    rw [← String.toList_ofList (l := trim _)]
    exact congrArg String.toList r.stripped
  rwa [htrim] at hedge

/-- **A row is read as its percentage and its symbol.** -/
theorem readsAs (r : PrintedRow) : ReadsAs r.line (.row (String.ofList r.field) r.symbol) := by
  have hpercent : '%' ∈ r.line := by simp [line, field]
  have hfields : RowFields r.line r.field r.symbol.toList :=
    ⟨r.lead.chars, r.gap.chars, r.pid.text, r.gap'.chars, r.trail.chars, rfl, r.lead.allBlank,
      by simp [field], r.noBlank_field, r.hasGap, r.gap.allBlank, Digits.text_ne_nil r.hasPid,
      fun c hc => isBlank_of_plain c (plain_of_mem_pid hc), r.hasGap', r.gap'.allBlank,
      by simpa using r.hasSymbol, r.noBlankEdge_symbol, r.trail.allBlank⟩
  have hread := ReadsAs.row ⟨r.noSeparator_line, hpercent⟩ hfields
  rwa [String.ofList_toList] at hread

/-- The percent sign is taken off. -/
theorem withoutPercentSign_field (r : PrintedRow) :
    withoutPercentSign (String.ofList r.field) = String.ofList r.percentage.text := by
  unfold withoutPercentSign field
  rw [String.toList_ofList, List.reverse_append]
  simp

/-- **A row stands for the share of its percentage,** if that is no overflow. -/
theorem rowShare_field (r : PrintedRow) {total n : Int}
    (h : share r.percentage.value total = .ok n) :
    rowShare (String.ofList r.field) total = .ok n := by
  unfold rowShare
  rw [r.withoutPercentSign_field, r.percentage.readDouble_text]
  dsimp only
  rw [h]

end PrintedRow

/-! ## 5. Shares -/

/-- A finite percentage of a total that is a double is a number or infinite. -/
theorem Binary64.shareProduct_ne_nan {x t : Binary64} {total : Int} (hx : x.isFinite = true)
    (ht : Binary64.ofInt? total = some t) : shareProduct x t ≠ .nan := by
  obtain ⟨s', w, hw, rfl⟩ := Binary64.exists_finite_of_ofInt? ht
  cases x with
  | nan => cases hx
  | infinite => cases hx
  | finite s u hu =>
    obtain ⟨v, hv, hdiv, -⟩ := Binary64.ofUnits_finite (n := u) (d := 100) s hu (by decide)
      (Nat.le_mul_of_pos_right u (by decide))
    rw [Binary64.shareProduct_finite_left, hdiv, Binary64.finite_mul_finite]
    unfold Binary64.ofUnits
    split
    · exact fun h => by cases h
    · exact fun h => by cases h

/-- **A share overflows** if its total is no double, or the share itself is infinite. -/
def ShareOverflows (percentage : Binary64) (total : Int) : Prop :=
  share percentage total = .error .totalTooLarge ∨ share percentage total = .error .infinite

instance (percentage : Binary64) (total : Int) : Decidable (ShareOverflows percentage total) :=
  inferInstanceAs (Decidable (_ ∨ _))

/-- A finite percentage has a share, unless it overflows. -/
theorem exists_share {x : Binary64} {total : Int} (hx : x.isFinite = true)
    (h : ¬ ShareOverflows x total) : ∃ n, share x total = .ok n := by
  cases hs : share x total with
  | ok n => exact ⟨n, rfl⟩
  | error fault =>
    cases fault with
    | totalTooLarge => exact absurd (Or.inl hs) h
    | infinite => exact absurd (Or.inr hs) h
    | notANumber =>
      cases share_eq_error_iff.1 hs with
      | notANumber ht hnan => exact absurd hnan (Binary64.shareProduct_ne_nan hx ht)

/-! ## 6. Blocks -/

/-- A line behind the total of an event. -/
inductive BodyLine where
  | filler (f : Filler)
  | row (r : PrintedRow)

namespace BodyLine

def line : BodyLine → List Char
  | filler f => f.line
  | row r => r.line

def row? : BodyLine → Option PrintedRow
  | filler _ => none
  | row r => some r

theorem oneLine (l : BodyLine) : OneLine l.line := by
  cases l with
  | filler f => exact f.oneLine
  | row r => exact r.oneLine_line

end BodyLine

/-- **The block of an event:** its header with the kind of event behind the name, its total, and
rows, with other lines among them. -/
structure EventBlock where
  event : String
  type : String
  config : String
  total : Nat
  between : List Filler
  body : List BodyLine
  noSpace : ' ' ∉ event.toList
  noColon : event.toList.getLast? ≠ some ':'
  eventOneLine : OneLine event.toList
  typeOneLine : OneLine type.toList
  configOneLine : OneLine config.toList
  fewDigits : (Nat.toDigits 10 total).length ≤ Numeral.digitLimit

namespace EventBlock

/-- What stands behind the name of the event. -/
def kind (b : EventBlock) : List Char :=
  " (type ".toList ++ (b.type.toList ++ (", config ".toList ++ (b.config.toList ++ [')'])))

def eventLine (b : EventBlock) : List Char :=
  "Event".toList ++ [':', ' '] ++ (b.event.toList ++ b.kind)

def totalLine (b : EventBlock) : List Char :=
  "Event count".toList ++ [':', ' '] ++ (toString b.total).toList

def lines (b : EventBlock) : List (List Char) :=
  b.eventLine :: (b.between.map Filler.line ++ b.totalLine :: b.body.map BodyLine.line)

def rows (b : EventBlock) : List PrintedRow := b.body.filterMap BodyLine.row?

theorem total_eq (b : EventBlock) : (toString b.total).toList = Nat.toDigits 10 b.total := by
  rw [show toString b.total = String.ofList (Nat.toDigits 10 b.total) from
    Nat.repr_eq_ofList_toDigits, String.toList_ofList]

theorem plain_of_mem_total {b : EventBlock} {c : Char} (h : c ∈ (toString b.total).toList) :
    c ∈ plainChars := by
  rw [b.total_eq] at h
  exact mem_plainChars_of_isDigit (Nat.isDigit_of_mem_toDigits (by decide) (by decide) h)

theorem oneLine_of_mem_lines {b : EventBlock} {l : List Char} (h : l ∈ b.lines) : OneLine l := by
  have hword : ∀ word ∈ ["Event", "Event count", " (type ", ", config ", ")", ": "],
      OneLine word.toList := by decide
  unfold lines at h
  simp only [List.mem_cons, List.mem_append] at h
  rcases h with rfl | h | rfl | h
  · exact ((hword "Event" (by simp)).append (hword ": " (by simp))).append
      (b.eventOneLine.append ((hword " (type " (by simp)).append (b.typeOneLine.append
        ((hword ", config " (by simp)).append (b.configOneLine.append (hword ")" (by simp)))))))
  · obtain ⟨f, -, rfl⟩ := List.mem_map.1 h
    exact f.oneLine
  · exact ((hword "Event count" (by simp)).append (hword ": " (by simp))).append
      (oneLine_of_plain fun c => plain_of_mem_total)
  · obtain ⟨l, -, rfl⟩ := List.mem_map.1 h
    exact l.oneLine

/-- A space ends the name. -/
theorem exists_kind_eq (b : EventBlock) : ∃ rest, b.kind = ' ' :: rest := by
  have hspace : " (type ".toList = ' ' :: "(type ".toList := by decide
  unfold kind
  rw [hspace, List.cons_append]
  exact ⟨_, rfl⟩

/-- **The header of an event is read as its name,** whatever is said of its kind. -/
theorem readsAs_event (b : EventBlock) : ReadsAs b.eventLine (.event b.event) := by
  have hseparator : ¬ [':', ' '] <:+: b.event.toList := fun h => b.noSpace (h.subset (by simp))
  obtain ⟨rest, hkind⟩ := b.exists_kind_eq
  have hvalue : upTo [':', ' '] (b.event.toList ++ b.kind) =
      b.event.toList ++ ' ' :: upTo [':', ' '] rest := by
    rw [upTo_append hseparator fun h => absurd h b.noColon, hkind, upTo_space]
  have hheader : Header b.eventLine "Event".toList (b.event.toList ++ ' ' :: upTo [':', ' '] rest) := by
    rw [← hvalue]
    exact header_of_label (not_infix_of_not_mem (by decide)) _
  have hname : ∀ c ∈ b.event.toList, (decide (c ≠ ' ')) = true := fun c hc =>
    decide_eq_true fun h => b.noSpace (h ▸ hc)
  have hread := ReadsAs.event hheader
  rw [List.takeWhile_append_of_pos hname, List.takeWhile_cons_of_neg (by simp), List.append_nil,
    String.ofList_toList] at hread
  exact hread

/-- **The header of a total is read as the total.** -/
theorem readsAs_total (b : EventBlock) : ReadsAs b.totalLine (.total (toString b.total)) := by
  have hplain : ∀ c ∈ (toString b.total).toList, c ∈ plainChars := fun c => plain_of_mem_total
  have hvalue : upTo [':', ' '] (toString b.total).toList = (toString b.total).toList := by
    refine (upTo_eq_iff (List.cons_ne_nil _ _)).2 (Or.inr ⟨not_infix_of_not_mem fun h => ?_, rfl⟩)
    exact (ne_of_plain ':' (hplain ':' h)).2.1 rfl
  have htrim := trim_of_plain hplain
  have hread := ReadsAs.total
    (header_of_label (not_infix_of_not_mem (by decide)) (toString b.total).toList)
  rwa [hvalue, htrim, String.ofList_toList] at hread

end EventBlock

/-! ## 7. Reports -/

/-- **A report:** blocks of events, with other lines before them. -/
structure PrintedReport where
  before : List Filler
  blocks : List EventBlock

namespace PrintedReport

def lines (r : PrintedReport) : List (List Char) :=
  r.before.map Filler.line ++ r.blocks.flatMap EventBlock.lines

/-- The lines with a line feed after each. -/
def text (r : PrintedReport) : String := String.ofList (unlines r.lines)

/-- The lines of the printed text are those that were printed. -/
theorem lines_text (r : PrintedReport) : Text.lines r.text.toList = r.lines := by
  unfold text
  rw [String.toList_ofList]
  refine lines_unlines r.lines fun l hl => ?_
  rcases List.mem_append.1 hl with hl | hl
  · obtain ⟨f, -, rfl⟩ := List.mem_map.1 hl
    exact f.oneLine
  · obtain ⟨b, -, hl⟩ := List.mem_flatMap.1 hl
    exact EventBlock.oneLine_of_mem_lines hl

end PrintedReport

section Meaning

variable (process : String) (wanted : List String)

/-- A row of a wanted symbol writes its share under the symbol. -/
def EventBlock.writeRow (b : EventBlock) (m : Metrics) (row : PrintedRow) :
    Except ShareFault Metrics :=
  if row.symbol ∈ wanted then
    (share row.percentage.value b.total).map fun n =>
      m.insert (metricKey b.event process (some row.symbol)) (toString n)
  else .ok m

/-- **A block writes** its total, and then its rows in order. -/
def EventBlock.write (b : EventBlock) (m : Metrics) : Except ShareFault Metrics :=
  b.rows.foldlM (b.writeRow process wanted)
    (m.insert (metricKey b.event process none) (toString b.total))

/-- **What a report means:** what its blocks write, in order. -/
def PrintedReport.metrics (r : PrintedReport) : Except ShareFault Metrics :=
  r.blocks.foldlM (fun m b => b.write process wanted m) {}

/-- No row of a wanted symbol overflows. -/
def PrintedReport.NoOverflow (r : PrintedReport) : Prop :=
  ∀ b ∈ r.blocks, ∀ row ∈ b.rows, row.symbol ∈ wanted →
    ¬ ShareOverflows row.percentage.value b.total

instance (r : PrintedReport) : Decidable (r.NoOverflow wanted) :=
  inferInstanceAs (Decidable (∀ b ∈ r.blocks, ∀ row ∈ b.rows, row.symbol ∈ wanted →
    ¬ ShareOverflows row.percentage.value b.total))

end Meaning

/-! ## 8. Reading -/

section Reading

variable (process : String) {wanted : List String}

/-- Lines without a say leave the state as it is. -/
theorem stateAfter?_fillers (fs : List Filler) (s : ReportState) :
    stateAfter? process wanted s (fs.map Filler.line) = some s := by
  induction fs with
  | nil => rfl
  | cons f fs ih =>
    rw [List.map_cons, stateAfter?, (f.ignored wanted).step]
    exact ih

/-- **A row is read as what it writes.** -/
theorem step_printedRow (b : EventBlock) (row : PrintedRow) (m : Metrics)
    (h : row.symbol ∈ wanted → ¬ ShareOverflows row.percentage.value b.total) :
    ∃ m', b.writeRow process wanted m row = .ok m' ∧
      ReportState.step process wanted ⟨b.event, b.total, m⟩ (ReportLine.read row.line) =
        .ok ⟨b.event, b.total, m'⟩ := by
  rw [row.readsAs.read_eq]
  unfold EventBlock.writeRow
  simp only [ReportState.step, List.contains_iff_mem]
  by_cases hw : row.symbol ∈ wanted
  · obtain ⟨n, hn⟩ := exists_share row.finite (h hw)
    rw [if_pos hw, if_pos hw, row.rowShare_field hn, hn]
    exact ⟨_, rfl, rfl⟩
  · rw [if_neg hw, if_neg hw]
    exact ⟨m, rfl, rfl⟩

/-- The lines behind a total are read as what their rows write. -/
theorem stateAfter?_body (b : EventBlock) (ls : List BodyLine) (m : Metrics)
    (h : ∀ row ∈ ls.filterMap BodyLine.row?, row.symbol ∈ wanted →
      ¬ ShareOverflows row.percentage.value b.total) :
    ∃ m', (ls.filterMap BodyLine.row?).foldlM (b.writeRow process wanted) m = .ok m' ∧
      stateAfter? process wanted ⟨b.event, b.total, m⟩ (ls.map BodyLine.line) =
        some ⟨b.event, b.total, m'⟩ := by
  induction ls generalizing m with
  | nil => exact ⟨m, rfl, rfl⟩
  | cons l ls ih =>
    cases l with
    | filler f =>
      obtain ⟨m', hwrites, hreads⟩ := ih m h
      refine ⟨m', hwrites, ?_⟩
      rw [List.map_cons, stateAfter?, BodyLine.line, (f.ignored wanted).step]
      exact hreads
    | row row =>
      obtain ⟨m₁, hwrite, hread⟩ := step_printedRow process b row m
        (h row List.mem_cons_self)
      obtain ⟨m', hwrites, hreads⟩ := ih m₁ fun r hr => h r (List.mem_cons_of_mem _ hr)
      refine ⟨m', ?_, ?_⟩
      · show (row :: ls.filterMap BodyLine.row?).foldlM _ m = _
        rw [List.foldlM_cons, hwrite]
        exact hwrites
      · rw [List.map_cons, stateAfter?, BodyLine.line, hread]
        exact hreads

/-- **A block is read as what it writes.** -/
theorem stateAfter?_block (b : EventBlock) (s : ReportState)
    (h : ∀ row ∈ b.rows, row.symbol ∈ wanted → ¬ ShareOverflows row.percentage.value b.total) :
    ∃ m, b.write process wanted s.metrics = .ok m ∧
      stateAfter? process wanted s b.lines = some ⟨b.event, b.total, m⟩ := by
  obtain ⟨m, hwrites, hreads⟩ := stateAfter?_body process b b.body
    (s.metrics.insert (metricKey b.event process none) (toString b.total)) h
  refine ⟨m, hwrites, ?_⟩
  have htotal := readInteger_repr b.fewDigits
  unfold EventBlock.lines
  rw [stateAfter?, b.readsAs_event.read_eq]
  dsimp only [ReportState.step]
  rw [stateAfter?_append _ (stateAfter?_fillers process b.between _), stateAfter?,
    b.readsAs_total.read_eq]
  dsimp only [ReportState.step]
  rw [htotal]
  exact hreads

/-- Blocks are read as what they write. -/
theorem stateAfter?_blocks (bs : List EventBlock) (s : ReportState)
    (h : ∀ b ∈ bs, ∀ row ∈ b.rows, row.symbol ∈ wanted →
      ¬ ShareOverflows row.percentage.value b.total) :
    ∃ s', bs.foldlM (fun m b => b.write process wanted m) s.metrics = .ok s'.metrics ∧
      stateAfter? process wanted s (bs.flatMap EventBlock.lines) = some s' := by
  induction bs generalizing s with
  | nil => exact ⟨s, rfl, rfl⟩
  | cons b bs ih =>
    obtain ⟨m, hwrite, hread⟩ := stateAfter?_block process b s (h b List.mem_cons_self)
    obtain ⟨s', hwrites, hreads⟩ := ih ⟨b.event, b.total, m⟩ fun c hc =>
      h c (List.mem_cons_of_mem _ hc)
    refine ⟨s', ?_, ?_⟩
    · rw [List.foldlM_cons, hwrite]
      exact hwrites
    · rw [List.flatMap_cons, stateAfter?_append _ hread]
      exact hreads

end Reading

/-- **Reading undoes printing.**  A printed report none of whose wanted rows overflows is read to its
end, whatever ends its lines, and its metrics are what its blocks write. -/
theorem parseReport_printed (r : PrintedReport) (process : String) (wanted : List String)
    (h : r.NoOverflow wanted) :
    ∃ m, r.metrics process wanted = .ok m ∧
      parseReport r.text process wanted = .ok ⟨m, none⟩ ∧
      ∀ text : String, Text.lines text.toList = r.lines →
        parseReport text process wanted = .ok ⟨m, none⟩ := by
  obtain ⟨s, hwrites, hreads⟩ := stateAfter?_blocks process r.blocks {} h
  have hall : stateAfter? process wanted {} r.lines = some s := by
    unfold PrintedReport.lines
    rw [stateAfter?_append _ (stateAfter?_fillers process r.before _)]
    exact hreads
  have hparse : ∀ text : String, Text.lines text.toList = r.lines →
      parseReport text process wanted = .ok ⟨s.metrics, none⟩ := by
    intro text htext
    unfold parseReport
    rw [htext]
    exact readLines_complete hall
  exact ⟨s.metrics, hwrites, hparse r.text r.lines_text, hparse⟩

/-- A row of ten and a half per cent, under a symbol with colons and blanks. -/
def commitRow : PrintedRow where
  percentage := { sign := .none, whole := [1, 0], fraction := some [5], exponent := none,
                  nonempty := by decide }
  pid := [6, 8, 0]
  symbol := "ui::Queue::commit(long, long)"
  lead := .spaces 0
  gap := .spaces 4
  gap' := .spaces 3
  trail := .spaces 1
  finite := by decide +kernel
  hasPid := by decide
  hasSymbol := by decide
  stripped := by decide +kernel
  oneLine := by decide +kernel
  noSeparator := (cutAt_eq_none_iff (List.cons_ne_nil _ _)).1 (by decide +kernel)
  noColon := by decide
  hasGap := by decide
  hasGap' := by decide

/-- A report of one event. -/
def commitReport : PrintedReport where
  before := [.header
    { label := "Arch".toList
      value := "arm64".toList
      noSeparator := not_infix_of_not_mem (by decide)
      noEvent := by decide
      noTotal := by decide
      labelOneLine := by decide
      valueOneLine := by decide }]
  blocks := [
    { event := "cpu-cycles"
      type := "0"
      config := "1"
      total := 1000
      between := []
      body := [.filler (.blank (.spaces 0)),
        .filler (.heading ⟨.spaces 0, .spaces 2, .spaces 2, .spaces 0⟩), .row commitRow]
      noSpace := by decide
      noColon := by decide
      eventOneLine := by decide
      typeOneLine := by decide
      configOneLine := by decide
      fewDigits := by decide +kernel }]

theorem parseReport_printed_commitReport :
    commitReport.text =
      "Arch: arm64\nEvent: cpu-cycles (type 0, config 1)\nEvent count: 1000\n\n" ++
        "Overhead  Pid  Symbol\n10.5%    680   ui::Queue::commit(long, long) \n" ∧
    commitReport.NoOverflow ["ui::Queue::commit(long, long)"] ∧
    parseReport commitReport.text "sf" ["ui::Queue::commit(long, long)"] = .ok ⟨⟨[
      ("cpu-cycles-sf", "1000"),
      ("cpu-cycles-sf-ui::Queue::commit(long, long)", "105")]⟩, none⟩ := by
  have hrange : commitReport.NoOverflow ["ui::Queue::commit(long, long)"] := by decide +kernel
  obtain ⟨m, hm, hparse, -⟩ := parseReport_printed commitReport "sf" _ hrange
  have hmetrics : commitReport.metrics "sf" ["ui::Queue::commit(long, long)"] = .ok ⟨[
      ("cpu-cycles-sf", "1000"),
      ("cpu-cycles-sf-ui::Queue::commit(long, long)", "105")]⟩ := by decide +kernel
  rw [hm] at hmetrics
  obtain rfl := Except.ok.inj hmetrics
  exact ⟨by decide +kernel, hrange, hparse⟩

end DeviceSampling
