/-
# What is read from JSON can be quoted

An integer of a JSON text has at most as many digits as are converted, so every value that is read
from one can be shown in a message.  The reader is a machine over tokens: what is quotable about its
stack and its mode is kept by each step, and so by a run.

* `natAbs_lt_of_readInteger`: an integer that is read is not too long;
* `Mode.Quotable`, `Frame.Quotable`: the values that the machine holds; `step_quotable`: one step;
* `overlong_of_readChars`: **a value that is read from JSON can be quoted.**
-/
import Mathlib.Data.List.TakeWhile
import DeviceSampling.Json.Reader

namespace DeviceSampling

open Numeral

/-! ## 1. Values that can be quoted -/

namespace Value

theorem listOverlong_eq_false_iff {vs : List Value} :
    listOverlong vs = false ↔ ∀ v ∈ vs, v.overlong = false := by
  induction vs with
  | nil => simp [listOverlong]
  | cons v vs ih => simp [listOverlong, ih]

theorem entriesOverlong_eq_false_iff {entries : List (Value × Value)} :
    entriesOverlong entries = false ↔
      ∀ e ∈ entries, e.1.overlong = false ∧ e.2.overlong = false := by
  induction entries with
  | nil => simp [entriesOverlong]
  | cons e rest ih => simp [entriesOverlong, ih, and_assoc]

/-- An entry that can be quoted is put among others. -/
theorem entriesOverlong_put {key v : Value} (hk : key.overlong = false) (hv : v.overlong = false) :
    ∀ {entries : List (Value × Value)}, entriesOverlong entries = false →
      entriesOverlong (put key v entries) = false
  | [], _ => by simp [put, entriesOverlong, hk, hv]
  | (k, w) :: rest, h => by
    simp only [entriesOverlong, Bool.or_eq_false_iff] at h
    obtain ⟨⟨hk', hw⟩, hrest⟩ := h
    simp only [put]
    split
    · simp [entriesOverlong, hk', hv, hrest]
    · simp [entriesOverlong, hk', hw, entriesOverlong_put hk hv hrest]

end Value

/-! ## 2. Integers -/

/-- Digits stand for less than the power of ten of their number. -/
theorem ofDigits_lt {ds : List Char} (h : ∀ c ∈ ds, c.isDigit = true) :
    ofDigits 10 ds < 10 ^ ds.length := by
  have hfrom : ∀ (ds : List Char) (n k : Nat), (∀ c ∈ ds, c.isDigit = true) → n < 10 ^ k →
      ds.foldl (fun n c => n * 10 + (c.toNat - 0x30)) n < 10 ^ (k + ds.length) := by
    intro ds
    induction ds with
    | nil => exact fun n k _ hn => hn
    | cons c ds ih =>
      intro n k hds hn
      rw [List.forall_mem_cons] at hds
      have hc : c.toNat ≤ 57 := by
        have hdigit := hds.1
        simp only [Char.isDigit, Bool.and_eq_true, decide_eq_true_eq, UInt32.le_iff_toNat_le] at hdigit
        exact hdigit.2
      have hnext : n * 10 + (c.toNat - 0x30) < 10 ^ (k + 1) := by
        rw [Nat.pow_succ]
        omega
      have := ih _ (k + 1) hds.2 hnext
      rwa [List.foldl_cons, List.length_cons, Nat.add_comm ds.length 1, ← Nat.add_assoc]
  simpa [ofDigits] using hfrom ds 0 0 h (by decide)

/-- A run of digits and underscores stands for a number of as many digits at most. -/
theorem ofDigits_run_lt {body : List Char}
    (h : ¬ digitLimit <
      ((body.takeWhile fun c => c.isDigit || c = '_').filter (· ≠ '_')).length) :
    ofDigits 10 ((body.takeWhile fun c => c.isDigit || c = '_').filter (· ≠ '_')) <
      10 ^ digitLimit := by
  refine (ofDigits_lt fun c hc => ?_).trans_le
    (Nat.pow_le_pow_right (by decide) (Nat.le_of_not_lt h))
  obtain ⟨hrun, hne⟩ := List.mem_filter.1 hc
  have hrun := List.mem_takeWhile_imp hrun
  rw [Bool.or_eq_true] at hrun
  rcases hrun with hdigit | hunderscore
  · exact hdigit
  · exact absurd (of_decide_eq_true hunderscore) (of_decide_eq_true hne)

/-- **An integer that is read has at most as many digits as are converted.** -/
theorem natAbs_lt_of_readInteger {text : String} {n : Int} (h : readInteger text = .ok n) :
    n.natAbs < 10 ^ digitLimit := by
  simp only [readInteger] at h
  split at h
  · cases h
  split at h
  · cases h
  split at h
  · cases h
  · next _ hlength _ =>
    have hbound := ofDigits_run_lt hlength
    cases h
    split
    · rw [Int.natAbs_neg]
      exact hbound
    · exact hbound

namespace Json

/-! ## 3. Tokens -/

/-- The value of a token that is a name can be quoted. -/
def Token.Quotable : Token → Prop
  | .name v => v.overlong = false
  | _ => True

theorem scanNumber?_quotable {cs : List Char} {t : Token × List Char} (h : scanNumber? cs = some t) :
    t.1.Quotable := by
  simp only [scanNumber?] at h
  obtain ⟨⟨whole, rest⟩, -, rfl⟩ := Option.map_eq_some_iff.1 h
  dsimp only
  split
  · trivial
  · trivial

theorem scanToken_quotable (c : Char) (rest : List Char) : (scanToken c rest).1.Quotable := by
  have hconstants : ∀ k ∈ constants, k.2.overlong = false := by decide
  unfold scanToken
  split
  · trivial
  split
  · split
    · trivial
    · trivial
    · trivial
  split
  · next spelling v hfind => exact hconstants _ (List.mem_of_find?_eq_some hfind)
  · cases hnumber : scanNumber? (c :: rest) with
    | none => trivial
    | some t => exact scanNumber?_quotable hnumber

theorem tokensWithin_quotable {steps : Nat} {cs : List Char} :
    ∀ t ∈ tokensWithin steps cs, t.token.Quotable := by
  induction steps generalizing cs with
  | zero => simp [tokensWithin]
  | succ steps ih =>
    cases cs with
    | nil => simp [tokensWithin]
    | cons c rest =>
      simp only [tokensWithin]
      split
      · exact ih
      · exact List.forall_mem_cons.2 ⟨scanToken_quotable c rest, ih⟩

/-- A token that is a value of its own is one that can be quoted. -/
theorem Token.value?_quotable {t : Token} {v : Value} (ht : t.Quotable)
    (h : t.value? = .ok (some v)) : v.overlong = false := by
  cases t with
  | text s =>
    cases h
    rfl
  | name w =>
    cases h
    exact ht
  | integer ds =>
    simp only [value?] at h
    split at h
    · next n hn =>
      cases h
      simpa [Value.overlong] using natAbs_lt_of_readInteger hn
    · cases h
  | double ds =>
    simp only [value?] at h
    split at h
    · cases h
      rfl
    · cases h
  | mark c => cases h
  | badText fault left => cases h
  | stray => cases h

/-! ## 4. The machine -/

/-- The values of a frame can be quoted. -/
def Frame.Quotable : Frame → Prop
  | .list items => ∀ v ∈ items, v.overlong = false
  | .object entries _ => Value.entriesOverlong entries = false

/-- The values of a mode can be quoted. -/
def Mode.Quotable : Mode → Prop
  | .value | .firstItem | .firstName => True
  | .name entries | .colon entries _ => Value.entriesOverlong entries = false
  | .after v => v.overlong = false

section Machine

variable {position : Nat → Nat} {mode mode' : Mode} {stack stack' : List Frame} {t : PlacedToken}

theorem stepValue_quotable (ht : t.token.Quotable) (hs : ∀ f ∈ stack, f.Quotable)
    (h : stepValue position stack t = .ok (mode', stack')) :
    mode'.Quotable ∧ ∀ f ∈ stack', f.Quotable := by
  unfold stepValue at h
  split at h
  · cases h
    exact ⟨trivial, hs⟩
  · cases h
    exact ⟨trivial, hs⟩
  · cases h
  split at h
  · next v hv =>
    cases h
    exact ⟨Token.value?_quotable ht hv, hs⟩
  · cases h
  · cases h

theorem stepName_quotable {entries : List (Value × Value)}
    (he : Value.entriesOverlong entries = false) (hs : ∀ f ∈ stack, f.Quotable)
    (h : stepName position entries stack t = .ok (mode', stack')) :
    mode'.Quotable ∧ ∀ f ∈ stack', f.Quotable := by
  unfold stepName at h
  split at h
  · cases h
    exact ⟨he, hs⟩
  · cases h
  · cases h

/-- **A step keeps what can be quoted.** -/
theorem step_quotable (hm : mode.Quotable) (hs : ∀ f ∈ stack, f.Quotable)
    (ht : t.token.Quotable) (h : step position mode stack t = .ok (mode', stack')) :
    mode'.Quotable ∧ ∀ f ∈ stack', f.Quotable := by
  cases mode with
  | value => exact stepValue_quotable ht hs h
  | firstItem =>
    simp only [step] at h
    split at h
    · cases h
      exact ⟨rfl, hs⟩
    · have hempty : (Frame.list []).Quotable := by simp [Frame.Quotable]
      exact stepValue_quotable ht (List.forall_mem_cons.2 ⟨hempty, hs⟩) h
  | firstName =>
    simp only [step] at h
    split at h
    · cases h
      exact ⟨rfl, hs⟩
    · exact stepName_quotable rfl hs h
  | name entries => exact stepName_quotable hm hs h
  | colon entries name =>
    simp only [step] at h
    split at h
    · cases h
      exact ⟨trivial, List.forall_mem_cons.2 ⟨hm, hs⟩⟩
    · cases h
  | after v =>
    cases stack with
    | nil => cases h
    | cons f outer =>
      rw [List.forall_mem_cons] at hs
      obtain ⟨hf, hs⟩ := hs
      cases f with
      | list items =>
        have hitems : ∀ w ∈ v :: items, w.overlong = false := List.forall_mem_cons.2 ⟨hm, hf⟩
        simp only [step] at h
        split at h
        · cases h
          refine ⟨Value.listOverlong_eq_false_iff.2 fun w hw => hitems w (List.mem_reverse.1 hw), hs⟩
        · cases h
          exact ⟨trivial, List.forall_mem_cons.2 ⟨hitems, hs⟩⟩
        · cases h
      | object entries name =>
        have hput : Value.entriesOverlong (Value.put (.text name) v entries) = false :=
          Value.entriesOverlong_put rfl hm hf
        simp only [step] at h
        split at h
        · cases h
          exact ⟨hput, hs⟩
        · cases h
          exact ⟨hput, hs⟩
        · cases h

/-- A run ends with a value that can be quoted. -/
theorem run_quotable {total : Nat} {v : Value} :
    ∀ {ts : List PlacedToken} {mode : Mode} {stack : List Frame}, mode.Quotable →
      (∀ f ∈ stack, f.Quotable) → (∀ t ∈ ts, t.token.Quotable) →
      run total mode stack ts = .ok v → v.overlong = false
  | [], mode, stack, hm, _, _, h => by
    cases mode with
    | after w =>
      cases stack with
      | nil =>
        cases h
        exact hm
      | cons _ _ => cases h
    | _ => cases h
  | t :: rest, mode, stack, hm, hs, hts, h => by
    rw [List.forall_mem_cons] at hts
    simp only [run] at h
    split at h
    · next mode' stack' hstep =>
      obtain ⟨hm', hs'⟩ := step_quotable hm hs hts.1 hstep
      exact run_quotable hm' hs' hts.2 h
    · cases h

end Machine

/-- **A value that is read from JSON can be quoted.** -/
theorem overlong_of_readChars {cs : List Char} {v : Value} (h : readChars cs = .ok v) :
    v.overlong = false := by
  unfold readChars at h
  split at h
  · cases h
  · have hstart : Mode.value.Quotable := trivial
    exact run_quotable hstart (by simp) tokensWithin_quotable h

end Json
end DeviceSampling
