/-
# Printed numbers are read as what they are

The readers of numerals admit more than is ever printed: padding, underscores, the digits of any
script, names for infinity.  None of that can be mistaken for the plain spelling of a number, which
is told here by its parts, with the number that it stands for.

* `Digits`: decimal digits with their text and their number;
* `Decimal`: a sign, digits with a point, and an exponent;
* `readInteger_toString`: **an integer in plain spelling is read as itself;**
* `Decimal.readDouble_text`: **a decimal numeral is read as the double nearest to it.**
-/
import Mathlib.Data.List.TakeWhile
import Mathlib.Tactic.IntervalCases
import DeviceSampling.Number.Numeral
import DeviceSampling.Proofs.OneLine

namespace DeviceSampling

open Text Numeral

/-! ## 1. Plain characters -/

/-- The characters of the plain spelling of a number. -/
def plainChars : List Char := "0123456789.+-eE".toList

theorem mem_plainChars_of_isDigit {c : Char} (h : c.isDigit = true) : c ∈ plainChars := by
  have hval : 48 ≤ c.toNat ∧ c.toNat ≤ 57 := by
    simpa [Char.isDigit, UInt32.le_iff_toNat_le] using h
  have hchar : c = Char.ofNat c.toNat := (Char.ofNat_toNat c).symm
  rw [hchar]
  obtain ⟨hle, hge⟩ := hval
  generalize c.toNat = n at hle hge
  interval_cases n <;> decide

/-- What can be seen of each plain character holds of all. -/
theorem forall_plain {P : Char → Prop} [DecidablePred P]
    (h : plainChars.all (fun c => decide (P c)) = true) : ∀ c ∈ plainChars, P c := by
  simpa using h

/-- A plain character is its own plain spelling. -/
theorem plainChar_of_plain : ∀ c ∈ plainChars, plainChar c = c := forall_plain (by decide)

theorem isPadding_of_plain : ∀ c ∈ plainChars, isPadding c = false := forall_plain (by decide)

theorem isBlank_of_plain : ∀ c ∈ plainChars, isBlank c = false := forall_plain (by decide)

theorem isBoundary_of_plain : ∀ c ∈ plainChars, isBoundary c = false := forall_plain (by decide)

theorem oneLine_of_plain {cs : List Char} (h : ∀ c ∈ cs, c ∈ plainChars) : OneLine cs :=
  fun c hc => isBoundary_of_plain c (h c hc)

theorem ne_of_plain : ∀ c ∈ plainChars, c ≠ '_' ∧ c ≠ ':' ∧ c ≠ ' ' ∧ c ≠ '%' :=
  forall_plain (by decide)

section Plain

variable {cs : List Char} (h : ∀ c ∈ cs, c ∈ plainChars)
include h

theorem map_plainChar : cs.map plainChar = cs := by
  have hmap := List.map_congr_left fun c hc => plainChar_of_plain c (h c hc)
  rw [hmap, List.map_id']

/-- There is no padding to drop. -/
theorem dropWhile_isPadding : cs.dropWhile isPadding = cs := by
  cases cs with
  | nil => rfl
  | cons c rest =>
    refine List.dropWhile_cons_of_neg ?_
    rw [isPadding_of_plain c (h c List.mem_cons_self)]
    decide

theorem unpad_of_plain : unpad cs = cs := by
  unfold unpad
  rw [dropWhile_isPadding h, dropWhile_isPadding fun c hc => h c (List.mem_reverse.1 hc),
    List.reverse_reverse]

/-- There are no underscores to take out. -/
theorem withoutUnderscores?_of_plain {before : Option Char} (hb : before ≠ some '_') :
    withoutUnderscores? before cs = some cs := by
  induction cs generalizing before with
  | nil => simp [withoutUnderscores?, hb]
  | cons c rest ih =>
    have hc : c ≠ '_' := (ne_of_plain c (h c List.mem_cons_self)).1
    have hrest : withoutUnderscores? (some c) rest = some rest :=
      ih (fun d hd => h d (List.mem_cons_of_mem _ hd)) (fun he => hc (Option.some.inj he))
    rw [withoutUnderscores?, hrest]
    · simp [hb]
    · exact fun he => hc he

end Plain

theorem not_sign_of_isDigit {c : Char} (h : c.isDigit = true) : c ≠ '+' ∧ c ≠ '-' := by
  constructor
  · rintro rfl
    exact absurd h (by decide)
  · rintro rfl
    exact absurd h (by decide)

/-! ## 2. Signs -/

/-- A sign, or none. -/
inductive Sign where
  | none
  | plus
  | minus
  deriving DecidableEq

namespace Sign

def text : Sign → List Char
  | none => []
  | plus => ['+']
  | minus => ['-']

def negative (s : Sign) : Bool := s = minus

/-- **A sign is taken off** what begins with no other. -/
theorem takeSign_text (s : Sign) {cs : List Char} (h : ∀ c ∈ cs.head?, c ≠ '+' ∧ c ≠ '-') :
    takeSign (s.text ++ cs) = (s.negative, cs) := by
  cases s with
  | plus => rfl
  | minus => rfl
  | none =>
    show takeSign cs = (false, cs)
    unfold takeSign
    split
    · exact absurd rfl (h '-' rfl).2
    · exact absurd rfl (h '+' rfl).1
    · rfl

theorem plain_of_mem_text {s : Sign} {c : Char} (h : c ∈ s.text) : c ∈ plainChars := by
  cases s with
  | none => cases h
  | plus | minus =>
    rw [List.mem_singleton.1 h]
    decide

end Sign

/-! ## 3. Whole numbers -/

/-- Digits without underscores separate nothing. -/
theorem underscoresSeparate_of_digits : ∀ {ds : List Char}, (∀ c ∈ ds, c.isDigit = true) →
    underscoresSeparate ds = true
  | [], _ => rfl
  | c :: ds, h => by
    have hc : c ≠ '_' := (ne_of_plain c (mem_plainChars_of_isDigit (h c List.mem_cons_self))).1
    have ih := underscoresSeparate_of_digits fun d hd => h d (List.mem_cons_of_mem _ hd)
    unfold underscoresSeparate
    split <;> simp_all

theorem ofDigits_toDigits (n : Nat) : ofDigits 10 (Nat.toDigits 10 n) = n := by
  have hstep : ∀ m c, m * 10 + (Char.toNat c - 0x30) = 10 * m + (c.toNat - '0'.toNat) := by
    intro m c
    rw [Nat.mul_comm]
    rfl
  have h := Nat.ofDigitChars_toDigits (b := 10) (n := n) (by decide) (by decide)
  unfold ofDigits
  simpa only [hstep, Nat.ofDigitChars] using h

/-- **A run of digits with a sign or without is read as its number,** if there are no more digits than
are converted. -/
theorem readInteger_signed (s : Sign) {ds : List Char} (hne : ds ≠ [])
    (hds : ∀ c ∈ ds, c.isDigit = true) (hlen : ds.length ≤ digitLimit) :
    readInteger (String.ofList (s.text ++ ds)) =
      .ok (if s.negative then -(ofDigits 10 ds : Int) else ofDigits 10 ds) := by
  have hdigits : ∀ c ∈ ds, c ∈ plainChars := fun c hc => mem_plainChars_of_isDigit (hds c hc)
  have hplain : ∀ c ∈ s.text ++ ds, c ∈ plainChars := by
    intro c hc
    rcases List.mem_append.1 hc with hc | hc
    · exact Sign.plain_of_mem_text hc
    · exact hdigits c hc
  have hrun : ∀ c ∈ ds, (c.isDigit || decide (c = '_')) = true := fun c hc => by simp [hds c hc]
  have hfilter : ds.filter (· ≠ '_') = ds :=
    List.filter_eq_self.2 fun c hc => decide_eq_true (ne_of_plain c (hdigits c hc)).1
  have hsign : takeSign (s.text ++ ds) = (s.negative, ds) := s.takeSign_text fun c hc =>
    not_sign_of_isDigit (hds c (List.mem_of_mem_head? hc))
  have hhead : ds.head? ≠ some '_' := fun h => (ne_of_plain _ (hdigits _ (List.mem_of_mem_head? h))).1 rfl
  unfold readInteger
  rw [String.toList_ofList, map_plainChar hplain, dropWhile_isPadding hplain, hsign]
  dsimp only
  rw [List.takeWhile_eq_self_iff.2 hrun, List.dropWhile_eq_nil_iff.2 hrun, hfilter]
  simp [hhead, underscoresSeparate_of_digits hds, hne, Nat.not_lt.2 hlen]

/-- A run of digits is read as its number, if there are no more than are converted. -/
theorem readInteger_digits {ds : List Char} (hne : ds ≠ []) (hds : ∀ c ∈ ds, c.isDigit = true)
    (hlen : ds.length ≤ digitLimit) :
    readInteger (String.ofList ds) = .ok (ofDigits 10 ds) :=
  readInteger_signed .none hne hds hlen

/-- **A natural number in plain spelling is read as itself.** -/
theorem readInteger_repr {n : Nat} (h : (Nat.toDigits 10 n).length ≤ digitLimit) :
    readInteger (toString n) = .ok (n : Int) := by
  have hdigits : toString n = String.ofList (Nat.toDigits 10 n) := Nat.repr_eq_ofList_toDigits
  rw [hdigits, readInteger_digits Nat.toDigits_ne_nil
    (fun c hc => Nat.isDigit_of_mem_toDigits (by decide) (by decide) hc) h, ofDigits_toDigits]

/-- **An integer in plain spelling is read as itself,** also a negative one. -/
theorem readInteger_toString {n : Int} (h : n.natAbs < 10 ^ digitLimit) :
    readInteger (toString n) = .ok n := by
  have hlen : (Nat.toDigits 10 n.natAbs).length ≤ digitLimit :=
    (Nat.length_toDigits_le_iff (by decide) (by decide)).2 h
  have hdigits : ∀ c ∈ Nat.toDigits 10 n.natAbs, c.isDigit = true := fun c hc =>
    Nat.isDigit_of_mem_toDigits (by decide) (by decide) hc
  cases n with
  | ofNat m => exact readInteger_repr hlen
  | negSucc m =>
    have htext : toString (Int.negSucc m) =
        String.ofList (Sign.minus.text ++ Nat.toDigits 10 (m + 1)) := by
      rw [String.ofList_append, ← Nat.repr_eq_ofList_toDigits]
      rfl
    rw [Int.natAbs_negSucc] at hlen hdigits
    rw [htext, readInteger_signed .minus Nat.toDigits_ne_nil hdigits hlen, ofDigits_toDigits]
    rfl

/-! ## 4. Decimal numerals -/

/-- Decimal digits. -/
abbrev Digits : Type := List (Fin 10)

namespace Digits

def text (ds : Digits) : List Char := List.map (fun d : Fin 10 => asciiDigit d) ds

/-- The number that the digits stand for. -/
def number (ds : Digits) : Nat := List.foldl (fun n (d : Fin 10) => n * 10 + d) 0 ds

theorem isDigit_of_mem {ds : Digits} {c : Char} (h : c ∈ ds.text) : c.isDigit = true := by
  have hdigit : ∀ d : Fin 10, (asciiDigit d).isDigit = true := by decide
  obtain ⟨d, -, rfl⟩ := List.mem_map.1 h
  exact hdigit d

theorem ofDigits_text (ds : Digits) : ofDigits 10 ds.text = ds.number := by
  have hvalue : ∀ d : Fin 10, (asciiDigit d).toNat - 0x30 = d := by decide
  unfold ofDigits text number
  simp only [List.foldl_map, hvalue]

theorem text_append (ds es : Digits) : text (ds ++ es) = ds.text ++ es.text := List.map_append

theorem text_ne_nil {ds : Digits} (h : ds ≠ []) : ds.text ≠ [] := by simpa [text] using h

theorem length_text (ds : Digits) : ds.text.length = List.length ds := List.length_map _

/-- The digits in front of something that is no digit. -/
theorem takeWhile_text (ds : Digits) {rest : List Char} (h : ∀ c ∈ rest.head?, c.isDigit = false) :
    (ds.text ++ rest).takeWhile Char.isDigit = ds.text ∧
      (ds.text ++ rest).dropWhile Char.isDigit = rest := by
  have hds : ∀ c ∈ ds.text, c.isDigit = true := fun c hc => isDigit_of_mem hc
  rw [List.takeWhile_append_of_pos hds, List.dropWhile_append_of_pos hds]
  cases rest with
  | nil => simp
  | cons c rest =>
    have hc := h c rfl
    simp [hc]

end Digits

/-- An exponent of ten. -/
structure Exponent where
  capital : Bool
  sign : Sign
  digits : Digits
  nonempty : digits ≠ []

namespace Exponent

def text (e : Exponent) : List Char :=
  (if e.capital then 'E' else 'e') :: (e.sign.text ++ e.digits.text)

def value (e : Exponent) : Int :=
  if e.sign.negative then -(e.digits.number : Int) else e.digits.number

end Exponent

/-- **A decimal numeral:** a sign, digits with a point among them or not, and an exponent. -/
structure Decimal where
  sign : Sign
  whole : Digits
  /-- The digits behind the point, if there is one. -/
  fraction : Option Digits
  exponent : Option Exponent
  nonempty : whole ++ fraction.getD [] ≠ []

namespace Decimal

/-- The point and the digits behind it. -/
def fractionText : Option Digits → List Char
  | none => []
  | some ds => '.' :: ds.text

def exponentText : Option Exponent → List Char
  | none => []
  | some e => e.text

def magnitudeText (d : Decimal) : List Char :=
  d.whole.text ++ (fractionText d.fraction ++ exponentText d.exponent)

def text (d : Decimal) : List Char := d.sign.text ++ d.magnitudeText

/-- The double nearest to the number that the numeral stands for. -/
def value (d : Decimal) : Binary64 :=
  .ofDecimal d.sign.negative (d.whole ++ d.fraction.getD []).number
    ((d.exponent.elim 0 Exponent.value) - (d.fraction.getD []).length)

/-- All of a numeral is plain. -/
theorem plain_of_mem {d : Decimal} {c : Char} (h : c ∈ d.text) : c ∈ plainChars := by
  have hsign : ∀ s : Sign, c ∈ s.text → c ∈ plainChars := fun s hs => Sign.plain_of_mem_text hs
  have hdigits : ∀ ds : Digits, c ∈ ds.text → c ∈ plainChars := fun ds hds =>
    mem_plainChars_of_isDigit (Digits.isDigit_of_mem hds)
  have hletter : ∀ capital : Bool, (if capital then 'E' else 'e') ∈ plainChars := by decide
  unfold text magnitudeText at h
  simp only [List.mem_append] at h
  rcases h with h | h | h | h
  · exact hsign _ h
  · exact hdigits _ h
  · cases hf : d.fraction with
    | none =>
      rw [hf] at h
      cases h
    | some ds =>
      rw [hf] at h
      rcases List.mem_cons.1 h with rfl | h
      · decide
      · exact hdigits ds h
  · cases he : d.exponent with
    | none =>
      rw [he] at h
      cases h
    | some e =>
      rw [he] at h
      rcases List.mem_cons.1 h with rfl | h
      · exact hletter e.capital
      · rcases List.mem_append.1 h with h | h
        · exact hsign _ h
        · exact hdigits _ h

/-- A numeral without its sign begins with a digit or a point. -/
theorem head_magnitudeText (d : Decimal) :
    ∀ c ∈ d.magnitudeText.head?, c ≠ '+' ∧ c ≠ '-' := by
  intro c hc
  unfold magnitudeText at hc
  cases hw : d.whole with
  | cons w ws =>
    rw [hw] at hc
    have hmem : c ∈ Digits.text (w :: ws) := List.mem_of_mem_head? hc
    exact not_sign_of_isDigit (Digits.isDigit_of_mem hmem)
  | nil =>
    cases hf : d.fraction with
    | none => exact absurd (by rw [hw, hf]; rfl) d.nonempty
    | some ds =>
      rw [hw, hf] at hc
      obtain rfl : '.' = c := Option.some.inj hc
      decide

theorem text_ne_nil (d : Decimal) : d.text ≠ [] := by
  have h := Digits.text_ne_nil d.nonempty
  intro he
  obtain ⟨hwhole, hrest⟩ := List.append_eq_nil_iff.1 (List.append_eq_nil_iff.1 he).2
  obtain ⟨hfraction, -⟩ := List.append_eq_nil_iff.1 hrest
  cases hf : d.fraction with
  | none =>
    rw [hf, Digits.text_append, hwhole] at h
    exact h rfl
  | some ds =>
    rw [hf] at hfraction
    cases hfraction

/-- An exponent is read as its value. -/
theorem readExponent_text (e : Option Exponent) :
    readExponent (exponentText e) = some (e.elim 0 Exponent.value) := by
  cases e with
  | none => rfl
  | some e =>
    have hds := Digits.text_ne_nil e.nonempty
    have hall : e.digits.text.all Char.isDigit = true :=
      List.all_eq_true.2 fun c hc => Digits.isDigit_of_mem hc
    have hhead : ∀ c ∈ e.digits.text.head?, c ≠ '+' ∧ c ≠ '-' := fun c hc =>
      not_sign_of_isDigit (Digits.isDigit_of_mem (List.mem_of_mem_head? hc))
    have hletter : (if e.capital then 'E' else 'e').toLower = 'e' := by
      cases e.capital <;> decide
    show readExponent (_ :: (e.sign.text ++ e.digits.text)) = _
    unfold readExponent
    dsimp only
    rw [e.sign.takeSign_text hhead]
    simp [hletter, hds, hall, Digits.ofDigits_text, Exponent.value]

/-- A numeral is no name for infinity or for not-a-number. -/
theorem lower_ne_name {cs : List Char} (h : ∀ c ∈ cs, c ∈ plainChars) {name : String}
    (hname : 'n' ∈ name.toList) : String.ofList (cs.map Char.toLower) ≠ name := by
  rintro rfl
  have hlower : ∀ c ∈ plainChars, c.toLower ≠ 'n' := forall_plain (by decide)
  rw [String.toList_ofList] at hname
  obtain ⟨c, hc, hn⟩ := List.mem_map.1 hname
  exact hlower c (h c hc) hn

/-- An exponent begins with no digit and no point. -/
theorem head_exponentText (e : Option Exponent) :
    ∀ c ∈ (exponentText e).head?, c.isDigit = false ∧ c ≠ '.' := by
  have hletter : ∀ capital : Bool, (if capital then 'E' else 'e').isDigit = false ∧
      (if capital then 'E' else 'e') ≠ '.' := by decide
  intro c hc
  cases e with
  | none => cases hc
  | some e =>
    obtain rfl := Option.some.inj hc
    exact hletter e.capital

/-- What is read of the parts of a numeral. -/
theorem readExponent_map (d : Decimal) (ds : Digits) (h : d.fraction.getD [] = ds) :
    (if d.whole.text.isEmpty && ds.text.isEmpty then none
      else (readExponent (exponentText d.exponent)).map fun e =>
        Binary64.ofDecimal d.sign.negative (ofDigits 10 (d.whole.text ++ ds.text))
          (e - ds.text.length)) = some d.value := by
  subst h
  have hempty := Digits.text_ne_nil d.nonempty
  rw [Digits.text_append] at hempty
  have hnot : ¬ (d.whole.text.isEmpty && (d.fraction.getD []).text.isEmpty) = true := by
    simpa using hempty
  rw [if_neg hnot, readExponent_text, Option.map_some, ← Digits.text_append, Digits.ofDigits_text,
    Digits.length_text]
  rfl

/-- **A numeral without its sign is read as its value.** -/
theorem readMagnitude_text (d : Decimal) :
    readMagnitude d.sign.negative d.magnitudeText = some d.value := by
  have hplain : ∀ c ∈ d.magnitudeText, c ∈ plainChars := fun c hc =>
    plain_of_mem (List.mem_append_right _ hc)
  have hne : ∀ name : String, 'n' ∈ name.toList →
      String.ofList (d.magnitudeText.map Char.toLower) ≠ name := fun _ => lower_ne_name hplain
  have hexponent := head_exponentText d.exponent
  unfold readMagnitude
  simp only [hne "inf" (by decide), hne "infinity" (by decide), hne "nan" (by decide),
    decide_false, Bool.or_self, Bool.false_eq_true, if_false]
  unfold magnitudeText
  cases hf : d.fraction with
  | none =>
    obtain ⟨htake, hdrop⟩ := d.whole.takeWhile_text fun c hc => (hexponent c hc).1
    simp only [fractionText, List.nil_append, htake, hdrop]
    split
    · next rest he => exact absurd rfl (hexponent '.' (by rw [he]; rfl)).2
    · exact d.readExponent_map [] (by rw [hf]; rfl)
  | some ds =>
    have hpoint : ∀ c ∈ ('.' :: (ds.text ++ exponentText d.exponent)).head?, c.isDigit = false := by
      intro c hc
      obtain rfl := Option.some.inj hc
      decide
    obtain ⟨htake, hdrop⟩ := d.whole.takeWhile_text hpoint
    obtain ⟨htake', hdrop'⟩ := ds.takeWhile_text fun c hc => (hexponent c hc).1
    simp only [fractionText, List.cons_append, htake, hdrop, htake', hdrop']
    exact d.readExponent_map ds (by rw [hf]; rfl)

/-- **A decimal numeral is read as the double nearest to it.** -/
theorem readDouble_text (d : Decimal) : readDouble (String.ofList d.text) = .ok d.value := by
  have hplain : ∀ c ∈ d.text, c ∈ plainChars := fun c hc => plain_of_mem hc
  have hmagnitude : ∀ c ∈ d.magnitudeText, c ∈ plainChars := fun c hc =>
    hplain c (List.mem_append_right _ hc)
  unfold readDouble
  rw [String.toList_ofList, map_plainChar hplain, unpad_of_plain hplain, text,
    d.sign.takeSign_text d.head_magnitudeText]
  dsimp only
  rw [withoutUnderscores?_of_plain hmagnitude (by decide), Option.bind_some, d.readMagnitude_text]

end Decimal

end DeviceSampling
