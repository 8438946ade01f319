/-
# What is shown stands on one line

A message quotes texts, keys and values that come from outside.  Whatever they hold, their shown
form has no line boundary: a boundary is no printable character, and all that is not printable is
escaped.

* `isBoundary_of_isPrintable`: a line boundary is not printable;
* `oneLine_quoteChars`: quoted text; `oneLine_toText`: a double;
* `oneLine_chars`: **every value,** by induction on it.
-/
import DeviceSampling.Document.Value
import DeviceSampling.Proofs.Numerals

namespace DeviceSampling
namespace Text

/-! ## 1. Quoted text -/

/-- **A line boundary is not printable.** -/
theorem isBoundary_of_isPrintable {c : Char} (h : isPrintable c = true) : isBoundary c = false := by
  by_contra hb
  rw [Bool.not_eq_false] at hb
  have hcode : ∀ n ∈ [0x0A, 0x0B, 0x0C, 0x0D, 0x1C, 0x1D, 0x1E, 0x85, 0x2028, 0x2029],
      isPrintable (Char.ofNat n) = false := by decide +kernel
  have hn : c.toNat ∈ [0x0A, 0x0B, 0x0C, 0x0D, 0x1C, 0x1D, 0x1E, 0x85, 0x2028, 0x2029] := by
    simp [isBoundary] at hb
    simp
    omega
  have hc := hcode c.toNat hn
  rw [Char.ofNat_toNat, h] at hc
  cases hc

theorem isBoundary_hexDigit {n : Nat} (h : n < 16) : isBoundary (hexDigit n) = false := by
  have hall : ∀ n < 16, isBoundary (hexDigit n) = false := by decide
  exact hall n h

theorem oneLine_hexDigits : ∀ width n : Nat, OneLine (hexDigits width n)
  | 0, _ => oneLine_nil
  | width + 1, n => by
    have hdigit := isBoundary_hexDigit (Nat.mod_lt n (by decide : 0 < 16))
    simp [hexDigits, oneLine_hexDigits width, hdigit]

theorem isBoundary_delimiterOf (cs : List Char) : isBoundary (delimiterOf cs) = false := by
  unfold delimiterOf
  split
  · decide
  · decide

/-- A character between quotes. -/
theorem oneLine_escapeChar {delimiter : Char} (h : isBoundary delimiter = false) (c : Char) :
    OneLine (escapeChar delimiter c) := by
  have hescape : isBoundary '\\' = false := by decide
  unfold escapeChar
  split
  · next hc =>
    rcases hc with rfl | rfl
    · simp [h, hescape]
    · decide
  split
  · decide
  split
  · decide
  split
  · decide
  split
  · next hp => simp [isBoundary_of_isPrintable hp]
  split
  · simp [hescape, oneLine_hexDigits, show isBoundary 'x' = false by decide]
  split
  · simp [hescape, oneLine_hexDigits, show isBoundary 'u' = false by decide]
  · simp [hescape, oneLine_hexDigits, show isBoundary 'U' = false by decide]

/-- **Quoted text stands on one line,** whatever it holds. -/
theorem oneLine_quoteChars (cs : List Char) : OneLine (quoteChars cs) := by
  have hd := isBoundary_delimiterOf cs
  simp [quoteChars, hd, oneLine_flatMap fun c _ => oneLine_escapeChar hd c]

/-! ## 2. Numbers -/

/-- Digits in base ten. -/
theorem oneLine_toDigits (n : Nat) : OneLine (Nat.toDigits 10 n) := by
  refine oneLine_of_plain fun c hc => mem_plainChars_of_isDigit ?_
  exact Nat.isDigit_of_mem_toDigits (by decide) (by decide) hc

end Text

namespace Binary64

open Text

variable {ds : List Char}

theorem oneLine_withoutTrailingZeros (h : OneLine ds) : OneLine (withoutTrailingZeros ds) := by
  refine h.of_subset fun c hc => ?_
  rw [withoutTrailingZeros, List.mem_reverse] at hc
  exact List.mem_reverse.1 (List.dropWhile_subset _ hc)

theorem oneLine_positional (h : OneLine ds) (whole : Int) : OneLine (positional ds whole) := by
  have hzero : isBoundary '0' = false := by decide
  have hpoint : isBoundary '.' = false := by decide
  unfold positional
  split
  · simp [hzero, hpoint, h, oneLine_replicate _ hzero]
  · have hpadded : OneLine (ds ++ List.replicate (whole.toNat - ds.length) '0') := by
      simp [h, oneLine_replicate _ hzero]
    have htake := hpadded.of_subset (List.take_subset whole.toNat _)
    have hdrop := hpadded.of_subset (List.drop_subset whole.toNat _)
    dsimp only
    split
    · simp [htake, hzero, hpoint]
    · simp [htake, hdrop, hpoint]

theorem oneLine_scientific (h : OneLine ds) (exponent : Int) :
    OneLine (scientific ds exponent) := by
  have hpoint : isBoundary '.' = false := by decide
  have he : isBoundary 'e' = false := by decide
  have hsign : isBoundary (if exponent < 0 then '-' else '+') = false := by split <;> decide
  have hzeros : ∀ n, OneLine (List.replicate n '0') := fun n => oneLine_replicate n (by decide)
  simp only [scientific, oneLine_append, oneLine_cons]
  refine ⟨?_, he, hsign, hzeros _, oneLine_toDigits _⟩
  split
  · rw [oneLine_cons] at h
    exact oneLine_cons.2 ⟨h.1, oneLine_cons.2 ⟨hpoint, h.2⟩⟩
  · exact h

theorem oneLine_magnitudeChars (units : Nat) : OneLine (magnitudeChars units) := by
  have hdigits := oneLine_withoutTrailingZeros (oneLine_toDigits (shortest units).digits)
  simp only [magnitudeChars]
  split
  · exact oneLine_positional hdigits _
  · exact oneLine_scientific hdigits _

/-- **The text of a double stands on one line.** -/
theorem oneLine_toText (x : Binary64) : OneLine x.toText.toList := by
  cases x with
  | nan => decide
  | infinite s => cases s <;> decide
  | finite s u _ =>
    have hbody : OneLine (if u = 0 then ['0', '.', '0'] else magnitudeChars u) := by
      split
      · decide
      · exact oneLine_magnitudeChars u
    simp only [toText, String.toList_ofList]
    split
    · exact oneLine_cons.2 ⟨by decide, hbody⟩
    · exact hbody

end Binary64

namespace Value

open Text

/-! ## 3. Values -/

theorem oneLine_commaJoined {parts : List (List Char)} (h : ∀ part ∈ parts, OneLine part) :
    OneLine (commaJoined parts) := oneLine_intercalate (by decide) h

theorem oneLine_decimalChars (n : Int) : OneLine (decimalChars n) := by
  cases n with
  | ofNat n =>
    have hchars : decimalChars (Int.ofNat n) = Nat.toDigits 10 n := Nat.toList_repr
    rw [hchars]
    exact oneLine_toDigits n
  | negSucc n =>
    have hchars : decimalChars (Int.negSucc n) = '-' :: Nat.toDigits 10 (n + 1) := by
      rw [← Nat.toList_repr]
      exact String.toList_append
    rw [hchars]
    exact oneLine_cons.2 ⟨by decide, oneLine_toDigits _⟩

/-- Numbers that are joined by commas. -/
theorem oneLine_decimals (ns : List Nat) :
    ∀ part ∈ ns.map (fun (n : Nat) => decimalChars n), OneLine part := by
  intro part hpart
  obtain ⟨n, -, rfl⟩ := List.mem_map.1 hpart
  exact oneLine_decimalChars n

theorem oneLine_dateChars (d : Date) : OneLine (dateChars d) := by
  have hname : OneLine "datetime.date(".toList := by decide
  have hend : OneLine [')'] := by decide
  have hnumbers := oneLine_commaJoined (oneLine_decimals [d.year, d.month, d.day])
  unfold dateChars
  rw [oneLine_append, oneLine_append]
  exact ⟨⟨hname, hnumbers⟩, hend⟩

theorem oneLine_spanChars (minutes : Int) : OneLine (spanChars minutes) := by
  have hdays : OneLine "days=".toList := by decide
  have hseconds : OneLine "seconds=".toList := by decide
  have hname : OneLine "datetime.timedelta(".toList := by decide
  have hend : OneLine [')'] := by decide
  unfold spanChars
  rw [oneLine_append, oneLine_append]
  refine ⟨⟨hname, oneLine_commaJoined fun part hpart => ?_⟩, hend⟩
  rcases List.mem_append.1 hpart with hpart | hpart
  · split at hpart
    · cases hpart
    · rw [List.mem_singleton.1 hpart]
      exact oneLine_append.2 ⟨hdays, oneLine_decimalChars _⟩
  · split at hpart
    · cases hpart
    · rw [List.mem_singleton.1 hpart]
      exact oneLine_append.2 ⟨hseconds, oneLine_decimalChars _⟩

theorem oneLine_offsetChars (minutes : Int) : OneLine (offsetChars minutes) := by
  have hname : OneLine "datetime.timezone(".toList := by decide
  have hend : OneLine [')'] := by decide
  unfold offsetChars
  split
  · decide
  · rw [oneLine_append, oneLine_append]
    exact ⟨⟨hname, oneLine_spanChars minutes⟩, hend⟩

theorem oneLine_timestampChars (t : Timestamp) : OneLine (timestampChars t) := by
  have hname : OneLine "datetime.datetime(".toList := by decide
  have hzone : OneLine "tzinfo=".toList := by decide
  have hend : OneLine [')'] := by decide
  unfold timestampChars
  rw [oneLine_append, oneLine_append]
  refine ⟨⟨hname, oneLine_commaJoined fun part hpart => ?_⟩, hend⟩
  rcases List.mem_append.1 hpart with hpart | hpart
  · exact oneLine_decimals _ part hpart
  · split at hpart
    · cases hpart
    · rw [List.mem_singleton.1 hpart]
      exact oneLine_append.2 ⟨hzone, oneLine_offsetChars _⟩

/-- One byte between quotes. -/
theorem oneLine_escapeByte {delimiter : Char} (h : isBoundary delimiter = false) (b : UInt8) :
    OneLine (escapeByte delimiter b) := by
  have hescape : isBoundary '\\' = false := by decide
  simp only [escapeByte]
  split
  · next hc =>
    rcases hc with hc | hc
    · simp [hc, h, hescape]
    · rw [hc]
      decide
  split
  · decide
  split
  · decide
  split
  · decide
  split
  · next hb =>
    have hprintable : ∀ n < 0x7F, 0x20 ≤ n → isBoundary (Char.ofNat n) = false := by decide
    simp [hprintable b.toNat hb.2 hb.1]
  · simp [hescape, oneLine_hexDigits, show isBoundary 'x' = false by decide]

theorem oneLine_bytesChars (bs : List UInt8) : OneLine (bytesChars bs) := by
  have hd := isBoundary_delimiterOf (bs.map fun b => Char.ofNat b.toNat)
  have hb : isBoundary 'b' = false := by decide
  simp [bytesChars, hb, hd, oneLine_flatMap fun b _ => oneLine_escapeByte hd b]

-- the induction goes over values, members and entries at once, as the definition does
mutual

/-- **The text of a value stands on one line.** -/
theorem oneLine_chars : ∀ v : Value, OneLine v.chars
  | .null => by decide
  | .bool b => by cases b <;> decide
  | .int n => by
    rw [chars]
    exact oneLine_decimalChars n
  | .double x => by
    rw [chars]
    exact Binary64.oneLine_toText x
  | .text s => by
    rw [chars]
    exact oneLine_quoteChars s.toList
  | .date d => by
    rw [chars]
    exact oneLine_dateChars d
  | .timestamp t => by
    rw [chars]
    exact oneLine_timestampChars t
  | .bytes bs => by
    rw [chars]
    exact oneLine_bytesChars bs
  | .list items => by
    have h := oneLine_commaJoined (oneLine_listChars items)
    simp [chars, h, show isBoundary '[' = false by decide, show isBoundary ']' = false by decide]
  | .pair a b => by
    have ha := oneLine_chars a
    have hb := oneLine_chars b
    simp [chars, ha, hb, show isBoundary '(' = false by decide,
      show isBoundary ')' = false by decide, show isBoundary ',' = false by decide,
      show isBoundary ' ' = false by decide]
  | .set [] => by
    rw [chars]
    decide
  | .set (m :: ms) => by
    have hm := oneLine_chars m
    have hms := oneLine_listChars ms
    have h := oneLine_commaJoined (List.forall_mem_cons.2 ⟨hm, hms⟩)
    simp [chars, h, show isBoundary '\x7b' = false by decide,
      show isBoundary '\x7d' = false by decide]
  | .mapping entries => by
    have h := oneLine_commaJoined (oneLine_entriesChars entries)
    simp [chars, h, show isBoundary '\x7b' = false by decide,
      show isBoundary '\x7d' = false by decide]
  | .cycle b => by
    rw [chars]
    cases b <;> decide

theorem oneLine_listChars : ∀ vs : List Value, ∀ part ∈ listChars vs, OneLine part
  | [] => by simp [listChars]
  | v :: vs => by
    simp only [listChars, List.forall_mem_cons]
    exact ⟨oneLine_chars v, oneLine_listChars vs⟩

theorem oneLine_entriesChars :
    ∀ entries : List (Value × Value), ∀ part ∈ entriesChars entries, OneLine part
  | [] => by simp [entriesChars]
  | (k, v) :: rest => by
    have hk := oneLine_chars k
    have hv := oneLine_chars v
    simp only [entriesChars, List.forall_mem_cons, oneLine_append, oneLine_cons]
    exact ⟨⟨hk, by decide, by decide, hv⟩, oneLine_entriesChars rest⟩

end

end Value
end DeviceSampling
