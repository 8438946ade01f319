/-
# How a share is rounded

A share is computed in doubles: the percentage is read and divided by a hundred, the total is
converted, the two are multiplied, and a half is added before the floor is taken.  Each of these five
steps rounds, so a share is the exact one up to five roundings.  For totals of some size that is the
exact share, except where the exact product ends in a half: there the half may be lost, and the share
is one less.  Beyond that size the error grows with the total.

* `percentText`, `readDouble_percentText`: percentages with two decimals;
* `sumUnits`, `share_percent`: what is computed, step by step; `within_sumUnits`: how exactly;
* `exactShare`: **the share in exact arithmetic;**
* `share_nearlyExact`: **how far a share is from it;**
* `share_notExact`: shares that are not the exact ones.
-/
import Mathlib.Algebra.Order.Floor.Ring
import Mathlib.Data.Rat.Floor
import DeviceSampling.Proofs.Numerals
import DeviceSampling.Proofs.RoundingError

namespace DeviceSampling

open Text Binary64

variable {k total : Nat}

/-! ## 1. Percentages with two decimals -/

/-- The text of a percentage with two decimals, given in hundredths. -/
def percentText (hundredths : Nat) : String :=
  toString (hundredths / 100) ++ "." ++
    String.ofList [asciiDigit (hundredths / 10 % 10), asciiDigit (hundredths % 10)]

/-- Digit characters are the text of digits. -/
theorem exists_digits : ∀ {cs : List Char}, (∀ c ∈ cs, c.isDigit = true) → ∃ ds : Digits, ds.text = cs
  | [], _ => ⟨[], rfl⟩
  | c :: cs, h => by
    obtain ⟨ds, rfl⟩ := exists_digits fun d hd => h d (List.mem_cons_of_mem _ hd)
    have hc := h c List.mem_cons_self
    simp only [Char.isDigit, Bool.and_eq_true, decide_eq_true_eq, UInt32.le_iff_toNat_le, ge_iff_le]
      at hc
    have hlow : 48 ≤ c.toNat := hc.1
    have hhigh : c.toNat ≤ 57 := hc.2
    have hdigit : asciiDigit (c.toNat - 0x30) = c := by
      rw [asciiDigit, Nat.add_sub_cancel' hlow, Char.ofNat_toNat]
    refine ⟨⟨c.toNat - 0x30, by omega⟩ :: ds, ?_⟩
    simp [Digits.text, hdigit]

/-- A decimal of two places is rounded once. -/
theorem ofDecimal_hundredths (hk : k ≤ 10000) :
    ofDecimal false k (-2) = nearest false k 100 := by
  have hlen : (Nat.toDigits 10 k).length ≤ 5 :=
    (Nat.length_toDigits_le_iff (by decide) (by decide)).2 (by omega)
  simp only [ofDecimal]
  rcases Nat.eq_zero_or_pos k with rfl | hpos
  · rw [if_pos (Or.inl rfl)]
    decide +kernel
  · rw [if_neg (by omega), if_neg (by omega), if_neg (by decide)]
    rfl

/-- **A percentage is read as the double nearest to it.** -/
theorem readDouble_percentText (hk : k ≤ 10000) :
    Numeral.readDouble (percentText k) = .ok (nearest false k 100) := by
  obtain ⟨ds, hds⟩ : ∃ ds : Digits, ds.text = Nat.toDigits 10 (k / 100) :=
    exists_digits fun c hc => Nat.isDigit_of_mem_toDigits (by decide) (by decide) hc
  let fraction : Digits := [⟨k / 10 % 10, by omega⟩, ⟨k % 10, by omega⟩]
  let d : Decimal :=
    { sign := .none, whole := ds, fraction := some fraction, exponent := none,
      nonempty := List.append_ne_nil_of_right_ne_nil _ (List.cons_ne_nil _ _) }
  have htext : percentText k = String.ofList d.text := by
    apply String.toList_injective
    rw [String.toList_ofList, percentText, Nat.toString_eq_ofList_toDigits, ← hds]
    simp [d, fraction, Decimal.text, Decimal.magnitudeText, Decimal.fractionText,
      Decimal.exponentText, Sign.text, Digits.text]
  have hwhole : ds.number = k / 100 := by
    rw [← Digits.ofDigits_text, hds, ofDigits_toDigits]
  have hnumber : Digits.number (ds ++ fraction) = k := by
    have happend : Digits.number (ds ++ fraction) = (ds.number * 10 + k / 10 % 10) * 10 + k % 10 := by
      simp [Digits.number, fraction, List.foldl_append]
    omega
  rw [htext, Decimal.readDouble_text]
  show Except.ok (ofDecimal false (Digits.number (ds ++ fraction)) (0 - 2)) = _
  rw [hnumber]
  exact congrArg Except.ok (ofDecimal_hundredths hk)

/-! ## 2. What is computed -/

/-- The units of a percentage, given in hundredths. -/
def percentUnits (hundredths : Nat) : Nat := nearestUnits (unitsPerOne * hundredths) 100

/-- The units of a hundredth of the percentage. -/
def fractionUnits (hundredths : Nat) : Nat := nearestUnits (percentUnits hundredths) 100

/-- The units of a total. -/
def totalUnits (total : Nat) : Nat := nearestUnits (unitsPerOne * total) 1

/-- The units of the product of both. -/
def productUnits (hundredths total : Nat) : Nat :=
  nearestUnits (fractionUnits hundredths * totalUnits total) unitsPerOne

/-- The units of one half. -/
def halfUnits : Nat := nearestUnits (unitsPerOne * 1) 2

/-- The units of the product with one half added. -/
def sumUnits (hundredths total : Nat) : Nat :=
  nearestUnits (productUnits hundredths total + halfUnits) 1

/-- The scale is fine enough for the steps, and the range is large enough. -/
theorem scale_bounds : 2 ^ 60 * 100 ≤ unitsPerOne ∧ 100 * unitsPerOne < unitLimit ∧
    2 * halfUnits = unitsPerOne := by
  decide +kernel

theorem two_mul_halfUnits : 2 * halfUnits = unitsPerOne := scale_bounds.2.2

theorem exists_unitsPerOne_eq : ∃ e, unitsPerOne = 2 ^ e := ⟨_, unitsPerOne.eq_1⟩

/-- A hundred is a double. -/
theorem onGrid_hundred : OnGrid (100 * unitsPerOne) := by
  obtain ⟨e, he⟩ := exists_unitsPerOne_eq
  refine ⟨scale_bounds.2.1, ?_⟩
  rw [he]
  exact significant_mul_two_pow (by decide)

/-- A rounded magnitude below the end of the range is that of a double. -/
theorem ofUnits_eq_finite {n d u : Nat} (s : Bool) (hu : OnGrid u) (h : nearestUnits n d = u) :
    ofUnits s n d = finite s u hu := by
  subst h
  exact dif_neg (Nat.not_le.2 hu.1)

theorem ofUnits_eq_infinite {n d u : Nat} (s : Bool) (hu : unitLimit ≤ u) (h : nearestUnits n d = u) :
    ofUnits s n d = infinite s := by
  subst h
  exact dif_pos hu

theorem percentUnits_le (hk : k ≤ 10000) : percentUnits k ≤ 100 * unitsPerOne := by
  refine nearestUnits_le onGrid_hundred.2 (by decide) ?_
  calc unitsPerOne * k ≤ unitsPerOne * 10000 := Nat.mul_le_mul_left _ hk
    _ = 100 * unitsPerOne * 100 := by ring

theorem onGrid_percentUnits (hk : k ≤ 10000) : OnGrid (percentUnits k) :=
  ⟨Nat.lt_of_le_of_lt (percentUnits_le hk) onGrid_hundred.1, nearestUnits_significant _ _⟩

theorem fractionUnits_le (hk : k ≤ 10000) : fractionUnits k ≤ unitsPerOne := by
  refine nearestUnits_le onGrid_unitsPerOne.2 (by decide) ?_
  rw [Nat.mul_comm]
  exact percentUnits_le hk

theorem onGrid_fractionUnits (hk : k ≤ 10000) : OnGrid (fractionUnits k) :=
  ⟨Nat.lt_of_le_of_lt (fractionUnits_le hk) onGrid_unitsPerOne.1, nearestUnits_significant _ _⟩

/-- The double of a total. -/
theorem exists_total (h : total < wholeLimit) : ∃ hgrid,
    ofInt? total = some (finite false (totalUnits total) hgrid) := by
  have hsign : decide ((total : Int) < 0) = false := decide_eq_false (by omega)
  have hnearest : nearest ((total : Int) < 0) (total : Int).natAbs 1 =
      ofUnits false (unitsPerOne * total) 1 := by
    rw [hsign, Int.natAbs_natCast, nearest]
  rcases Nat.lt_or_ge (totalUnits total) unitLimit with hlt | hge
  · have hgrid : OnGrid (totalUnits total) := ⟨hlt, nearestUnits_significant _ _⟩
    refine ⟨hgrid, ?_⟩
    unfold ofInt?
    rw [hnearest, ofUnits_eq_finite false hgrid rfl]
  · have hnone : ofInt? total = none := by
      unfold ofInt?
      rw [hnearest, ofUnits_eq_infinite false hge rfl]
    rw [ofInt?_eq_none_iff, Int.natAbs_natCast] at hnone
    omega

theorem productUnits_le (hk : k ≤ 10000) (total : Nat) : productUnits k total ≤ totalUnits total := by
  refine nearestUnits_le (nearestUnits_significant _ _) unitsPerOne_pos ?_
  rw [Nat.mul_comm]
  exact Nat.mul_le_mul_left _ (fractionUnits_le hk)

theorem onGrid_productUnits (hk : k ≤ 10000) (h : OnGrid (totalUnits total)) :
    OnGrid (productUnits k total) :=
  ⟨Nat.lt_of_le_of_lt (productUnits_le hk total) h.1, nearestUnits_significant _ _⟩

theorem onGrid_halfUnits : OnGrid halfUnits := by
  obtain ⟨-, hlimit, hhalf⟩ := scale_bounds
  exact ⟨by omega, nearestUnits_significant _ _⟩

/-- A half is added to a magnitude. -/
theorem finite_add_half {u : Nat} (hu : OnGrid u) :
    finite false u hu + half = ofUnits false (u + halfUnits) 1 := by
  have hhalf : half = finite false halfUnits onGrid_halfUnits := by
    rw [half, nearest]
    exact ofUnits_eq_finite false _ rfl
  have hpos : 0 < halfUnits := by
    have hone := unitsPerOne_pos
    rw [← two_mul_halfUnits] at hone
    omega
  have hsum : signedUnits false u + signedUnits false halfUnits = ((u + halfUnits : Nat) : Int) :=
    (Int.natCast_add _ _).symm
  rw [hhalf]
  show add _ _ = _
  rw [add, hsum]
  rw [if_neg (by omega), Int.natAbs_natCast, decide_eq_false (by omega)]

theorem onGrid_sumUnits (h : OnGrid (productUnits k total)) : OnGrid (sumUnits k total) := by
  refine ⟨?_, nearestUnits_significant _ _⟩
  by_contra hge
  obtain ⟨s, u, hu, hadd⟩ := add_half_finite false (productUnits k total) h
  rw [finite_add_half, ofUnits_eq_infinite false (Nat.not_lt.1 hge) rfl] at hadd
  cases hadd

/-- The integer part of a double that is not negative. -/
theorem floor_finite {u : Nat} (hu : OnGrid u) :
    (finite false u hu).floor = .ok ((u / unitsPerOne : Nat) : Int) := by
  rw [Int.ofNat_fdiv]
  rfl

/-- **What a share is,** step by step. -/
theorem share_percent (hk : k ≤ 10000) (h : total < wholeLimit) :
    share (nearest false k 100) total =
      .ok (min ((sumUnits k total / unitsPerOne : Nat) : Int) total) := by
  obtain ⟨hgrid, ht⟩ := exists_total h
  have hpercent : nearest false k 100 = finite false (percentUnits k) (onGrid_percentUnits hk) := by
    rw [nearest]
    exact ofUnits_eq_finite false _ rfl
  have hproduct : shareProduct (nearest false k 100) (finite false (totalUnits total) hgrid) =
      finite false (productUnits k total) (onGrid_productUnits hk hgrid) := by
    rw [hpercent, shareProduct_finite_left, ofUnits_eq_finite false (onGrid_fractionUnits hk) rfl,
      finite_mul_finite]
    exact ofUnits_eq_finite false _ rfl
  rw [share_of_ofInt? ht, hproduct, roundHalfUp, finite_add_half,
    ofUnits_eq_finite false (onGrid_sumUnits (onGrid_productUnits hk hgrid)) rfl, floor_finite]
  rfl

/-! ## 3. How exactly it is computed -/

-- the scale is never computed here
attribute [local irreducible] unitsPerOne unitLimit

theorem le_percentUnits (hk : 0 < k) : 2 ^ 60 ≤ percentUnits k := by
  refine le_nearestUnits (significant_two_pow _) (by decide) ?_
  exact Nat.le_trans scale_bounds.1 (Nat.le_mul_of_pos_right _ hk)

theorem le_fractionUnits (hk : 0 < k) : 2 ^ 52 ≤ fractionUnits k := by
  refine le_nearestUnits (significant_two_pow _) (by decide) ?_
  have hpower : 2 ^ 52 * 100 ≤ 2 ^ 60 := by decide
  exact Nat.le_trans hpower (le_percentUnits hk)

theorem le_totalUnits (ht : 0 < total) : unitsPerOne ≤ totalUnits total := by
  refine le_nearestUnits onGrid_unitsPerOne.2 (by decide) ?_
  exact Nat.mul_le_mul_left _ ht

/-- None of the steps rounds a quotient so small that it loses more than one part in `2^53`. -/
theorem long_steps (k total : Nat) : Long (unitsPerOne * k) 100 ∧ Long (percentUnits k) 100 ∧
    Long (unitsPerOne * total) 1 ∧ Long (fractionUnits k * totalUnits total) unitsPerOne ∧
    Long (productUnits k total + halfUnits) 1 := by
  obtain ⟨hscale, -, htwice⟩ := scale_bounds
  have hunit : 2 ^ 52 * 100 ≤ unitsPerOne := by omega
  have hpercent : 2 ^ 52 * 100 ≤ 2 ^ 60 := by decide
  have hhalf : 2 ^ 52 ≤ halfUnits := by omega
  refine ⟨?_, ?_, ?_, ?_, ?_⟩
  · rcases Nat.eq_zero_or_pos k with rfl | hk
    · exact Or.inl rfl
    · exact Or.inr (Nat.le_trans hunit (Nat.le_mul_of_pos_right _ hk))
  · rcases Nat.eq_zero_or_pos k with rfl | hk
    · exact Or.inl (nearestUnits_zero (by decide))
    · exact Or.inr (Nat.le_trans hpercent (le_percentUnits hk))
  · rcases Nat.eq_zero_or_pos total with rfl | ht
    · exact Or.inl rfl
    · refine Or.inr (Nat.le_trans ?_ (Nat.le_mul_of_pos_right _ ht))
      omega
  · rcases Nat.eq_zero_or_pos k with rfl | hk
    · have hzero : fractionUnits 0 = 0 := by
        rw [fractionUnits, percentUnits, Nat.mul_zero, nearestUnits_zero (by decide),
          nearestUnits_zero (by decide)]
      rw [hzero, Nat.zero_mul]
      exact Or.inl rfl
    rcases Nat.eq_zero_or_pos total with rfl | ht
    · have hzero : totalUnits 0 = 0 := nearestUnits_zero (by decide)
      rw [hzero, Nat.mul_zero]
      exact Or.inl rfl
    · exact Or.inr (Nat.mul_le_mul (le_fractionUnits hk) (le_totalUnits ht))
  · right
    omega

/-- **Two roundings** lie between a percentage as a fraction of one and what is computed of it. -/
theorem within_fractionUnits (k : Nat) :
    Within (1 + 1) (fractionUnits k) (unitsPerOne * k / 100 / 100) := by
  obtain ⟨hp, hf, -⟩ := long_steps k 0
  have hpercent : Within 1 (percentUnits k) ((unitsPerOne * k : Nat) / (100 : Nat)) :=
    within_nearestUnits (by decide) hp
  have hfraction : Within 1 (fractionUnits k) (percentUnits k / (100 : Nat)) :=
    within_nearestUnits (by decide) hf
  have htrans := hfraction.trans (hpercent.div (by positivity) (Nat.cast_nonneg 100))
  rwa [Nat.cast_mul] at htrans

/-- **Five roundings** lie between the exact share and the one that is computed, before both are
rounded down. -/
theorem within_sumUnits (k total : Nat) :
    Within 5 (sumUnits k total / unitsPerOne) (k * total / 10000 + 1 / 2) := by
  obtain ⟨-, -, ht, hm, hs⟩ := long_steps k total
  have hone : (0 : ℚ) < unitsPerOne := by exact_mod_cast unitsPerOne_pos
  have hhalf : (2 : ℚ) * halfUnits = unitsPerOne := by exact_mod_cast two_mul_halfUnits
  have htotal : Within 1 (totalUnits total) (unitsPerOne * total) := by
    have hround := within_nearestUnits (by decide) ht
    rwa [Nat.cast_mul, Nat.cast_one, div_one] at hround
  have hmul : Within 1 (productUnits k total)
      (fractionUnits k * totalUnits total / unitsPerOne) := by
    have hround := within_nearestUnits unitsPerOne_pos hm
    rwa [Nat.cast_mul] at hround
  have hadd : Within 1 (sumUnits k total) (productUnits k total + halfUnits) := by
    have hround := within_nearestUnits (by decide) hs
    rwa [Nat.cast_add, Nat.cast_one, div_one] at hround
  have hfactors := (within_fractionUnits k).mul htotal (by positivity) (by positivity)
  have hproduct := hmul.trans (hfactors.div (by positivity) hone.le)
  have hsum := hadd.trans (hproduct.add (Nat.cast_nonneg _))
  have hexact : (unitsPerOne * k / 100 / 100 * (unitsPerOne * total) / unitsPerOne + halfUnits : ℚ) /
      unitsPerOne = k * total / 10000 + 1 / 2 := by
    rw [← hhalf]
    have hne : (halfUnits : ℚ) ≠ 0 := by linarith
    field_simp
    ring
  rw [← hexact]
  exact hsum.div (by positivity) hone.le

/-! ## 4. The exact share -/

/-- **The share in exact arithmetic:** the percentage of the total, rounded half up. -/
def exactShare (hundredths total : Nat) : Int :=
  ⌊(hundredths : ℚ) / 100 * total / 100 + 1 / 2⌋

/-- Rounding down in integers is rounding down. -/
theorem natDiv_bounds (n : Nat) {d : Nat} (hd : 0 < d) :
    ((n / d : Nat) : ℚ) ≤ n / d ∧ (n / d : ℚ) < (n / d : Nat) + 1 := by
  have hpos : (0 : ℚ) < d := by exact_mod_cast hd
  have hdiv : d * (n / d) + n % d = n := Nat.div_add_mod n d
  have hmod : n % d < d := Nat.mod_lt n hd
  rw [le_div_iff₀ hpos, div_lt_iff₀ hpos]
  constructor
  · have hle : n / d * d ≤ n := Nat.div_mul_le_self n d
    exact_mod_cast hle
  · have hlt : n < (n / d + 1) * d := by
      rw [Nat.add_mul, Nat.one_mul, Nat.mul_comm]
      omega
    exact_mod_cast hlt

theorem exactShare_eq (k total : Nat) : exactShare k total = ((k * total + 5000) / 10000 : Nat) := by
  obtain ⟨hlow, hhigh⟩ := natDiv_bounds (k * total + 5000) (d := 10000) (by decide)
  have hexact : (k : ℚ) / 100 * total / 100 + 1 / 2 = ((k * total + 5000 : Nat) : ℚ) / (10000 : Nat) := by
    push_cast
    ring
  unfold exactShare
  rw [Int.floor_eq_iff, hexact]
  exact ⟨by exact_mod_cast hlow, by exact_mod_cast hhigh⟩

/-- A percentage of up to a hundred is no more than the total. -/
theorem mul_le_of_percent (hk : k ≤ 10000) (total : Nat) : k * total ≤ 10000 * total :=
  Nat.mul_le_mul_right total hk

/-! ## 5. How far a share is from it -/

/-- The half by which a share is rounded, and what five roundings may add to it. -/
def shareError (hundredths total : Nat) : ℚ :=
  1 / 2 + (hundredths * total / 10000 + 1 / 2) * (6 * roundingError)

/-- **A share is no further from the exact product** than that. -/
theorem abs_share_sub_le (hk : k ≤ 10000) (total : Nat) :
    |((min ((sumUnits k total / unitsPerOne : Nat) : Int) total : Int) : ℚ) - k * total / 10000| ≤
      shareError k total := by
  have herr := (within_sumUnits k total).abs_sub_le (by positivity)
  obtain ⟨hlow, hhigh⟩ := natDiv_bounds (sumUnits k total) unitsPerOne_pos
  have hcap : (k : ℚ) * total / 10000 ≤ total := by
    have hle : (k : ℚ) * total ≤ 10000 * total := by exact_mod_cast mul_le_of_percent hk total
    linarith
  have hpos : 0 ≤ shareError k total - 1 / 2 := by
    have herror : 0 ≤ roundingError := by norm_num [roundingError]
    unfold shareError
    rw [add_sub_cancel_left]
    positivity
  unfold shareError at hpos ⊢
  rw [abs_sub_le_iff] at herr
  rw [abs_sub_le_iff]
  generalize sumUnits k total / unitsPerOne = v at hlow hhigh ⊢
  rcases Nat.le_total v total with hle | hge
  · rw [min_eq_left (by exact_mod_cast hle), Int.cast_natCast]
    constructor <;> linarith [herr.1, herr.2]
  · have hge' : (total : ℚ) ≤ v := by exact_mod_cast hge
    rw [min_eq_right (by exact_mod_cast hge), Int.cast_natCast]
    constructor <;> linarith [herr.1, herr.2]

/-- **Where the error is less than a hundredth of a percent of one event,** a share is the exact one,
or the exact product ends in a half and the share is one less. -/
theorem share_eq_exactShare_or (hk : k ≤ 10000) (h : k * total ≤ 15 * 10 ^ 14) :
    min ((sumUnits k total / unitsPerOne : Nat) : Int) total = exactShare k total ∨
      (k * total % 10000 = 5000 ∧
        min ((sumUnits k total / unitsPerOne : Nat) : Int) total + 1 = exactShare k total) := by
  have herr := (within_sumUnits k total).abs_sub_le (by positivity)
  obtain ⟨hlow, hhigh⟩ := natDiv_bounds (sumUnits k total) unitsPerOne_pos
  have hcap := mul_le_of_percent hk total
  have hsmall : ((k * total : Nat) / 10000 + 1 / 2) * (6 * roundingError) < 1 / 10000 := by
    have hle : ((k * total : Nat) : ℚ) ≤ 15 * 10 ^ 14 := by exact_mod_cast h
    unfold roundingError
    linarith
  rw [abs_sub_le_iff] at herr
  rw [exactShare_eq]
  generalize sumUnits k total / unitsPerOne = v at hlow hhigh ⊢
  push_cast at hsmall
  have hbelow : 10000 * v ≤ k * total + 5000 := by
    have hlt : (10000 : ℚ) * v < k * total + 5000 + 1 := by linarith [herr.1]
    have hnat : 10000 * v < k * total + 5000 + 1 := by exact_mod_cast hlt
    omega
  have habove : k * total + 5000 ≤ 10000 * (v + 1) := by
    have hlt : (k * total + 5000 : ℚ) < 10000 * (v + 1) + 1 := by linarith [herr.2]
    have hnat : k * total + 5000 < 10000 * (v + 1) + 1 := by exact_mod_cast hlt
    omega
  generalize k * total = product at *
  omega

/-! ## 6. All of a total -/

theorem productUnits_hundred (total : Nat) : productUnits 10000 total = totalUnits total := by
  have hpercent : percentUnits 10000 = 100 * unitsPerOne := by
    have hmul : unitsPerOne * 10000 = 100 * unitsPerOne * 100 := by omega
    rw [percentUnits, hmul, nearestUnits_mul onGrid_hundred.2 (by decide)]
  have hfraction : fractionUnits 10000 = unitsPerOne := by
    rw [fractionUnits, hpercent, Nat.mul_comm, nearestUnits_mul onGrid_unitsPerOne.2 (by decide)]
  rw [productUnits, hfraction, Nat.mul_comm]
  exact nearestUnits_mul (nearestUnits_significant _ _) unitsPerOne_pos

/-- A total of up to `2^53` is a double. -/
theorem totalUnits_of_le (h : total ≤ 2 ^ 53) : totalUnits total = unitsPerOne * total := by
  obtain ⟨e, he⟩ := exists_unitsPerOne_eq
  have hkept := nearestUnits_mul (significant_mul_two_pow (s := e) h) Nat.one_pos
  rwa [← he, Nat.mul_one, Nat.mul_comm] at hkept

/-- A total that is rounded is so long that a half is less than half a step. -/
theorem unitsPerOne_lt_of_ne (h : totalUnits total ≠ unitsPerOne * total) :
    unitsPerOne < 2 ^ ((totalUnits total).log2 - 52) := by
  obtain ⟨e, he⟩ := exists_unitsPerOne_eq
  have hstep : e < (unitsPerOne * total).log2 - 52 := by
    by_contra hle
    have hsig : Significant (unitsPerOne * total) := by
      refine Nat.dvd_trans (Nat.pow_dvd_pow 2 (Nat.not_lt.1 hle)) ?_
      rw [← he]
      exact Nat.dvd_mul_right _ _
    have hkept := nearestUnits_mul hsig Nat.one_pos
    rw [Nat.mul_one] at hkept
    exact h hkept
  have hne : unitsPerOne * total ≠ 0 := by
    intro hzero
    rw [hzero, Nat.log2_zero] at hstep
    omega
  have hle : 2 ^ (unitsPerOne * total).log2 ≤ totalUnits total := by
    refine le_nearestUnits (significant_two_pow _) Nat.one_pos ?_
    rw [Nat.mul_one]
    exact Nat.log2_self_le hne
  have hpos : totalUnits total ≠ 0 :=
    Nat.pos_iff_ne_zero.1 (Nat.lt_of_lt_of_le (Nat.two_pow_pos _) hle)
  have hlog : (unitsPerOne * total).log2 ≤ (totalUnits total).log2 := (Nat.le_log2 hpos).2 hle
  rw [he] at hstep hlog ⊢
  exact Nat.pow_lt_pow_right (by decide) (by omega)

/-- **All of a total is the total or its double,** whichever is less: adding the half does not take
the double past the total. -/
theorem min_sumUnits_hundred (total : Nat) :
    min ((sumUnits 10000 total / unitsPerOne : Nat) : Int) total =
      min ((totalUnits total / unitsPerOne : Nat) : Int) total := by
  have hsig : Significant (totalUnits total) := nearestUnits_significant _ _
  have hle : totalUnits total ≤ sumUnits 10000 total := by
    refine le_nearestUnits hsig Nat.one_pos ?_
    rw [productUnits_hundred]
    omega
  have hdiv := Nat.div_le_div_right (c := unitsPerOne) hle
  rcases Nat.lt_or_ge (totalUnits total) (unitsPerOne * total) with hlt | hge
  · -- the total was rounded down, and the sum is rounded down to the same
    have hback : sumUnits 10000 total ≤ totalUnits total := by
      refine nearestUnits_le_of_lt_half hsig ?_
      have hstep := unitsPerOne_lt_of_ne (Nat.ne_of_lt hlt)
      have hhalf := two_mul_halfUnits
      rw [productUnits_hundred]
      omega
    rw [Nat.le_antisymm hback hle]
  · have hwhole : total ≤ totalUnits total / unitsPerOne := by
      rwa [Nat.le_div_iff_mul_le unitsPerOne_pos, Nat.mul_comm]
    omega

/-! ## 7. Shares -/

/-- **How far a share is from the exact one.**  A percentage with two decimals is read as the double
nearest to it, and its share of any total that is a double is no further from the exact product than
a half and five roundings.  Up to a size it is the exact share, except that a half may be lost.  None
of a total is nothing, and all of it is the total or its double, whichever is less. -/
theorem share_nearlyExact (hk : k ≤ 10000) (ht : total < wholeLimit) :
    ∃ x n, Numeral.readDouble (percentText k) = .ok x ∧ share x total = .ok n ∧
      |(n : ℚ) - k * total / 10000| ≤ 1 / 2 + (k * total / 10000 + 1 / 2) * (6 / 2 ^ 53) ∧
      (k * total ≤ 15 * 10 ^ 14 → n = exactShare k total ∨
        (k * total % 10000 = 5000 ∧ n + 1 = exactShare k total)) ∧
      (k = 0 → n = 0) ∧
      (k = 10000 → ∃ t m, ofInt? total = some t ∧ t.floor = .ok m ∧ n = min m total) ∧
      (k = 10000 → total ≤ 2 ^ 53 → n = total) := by
  refine ⟨_, _, readDouble_percentText hk, share_percent hk ht, ?_, share_eq_exactShare_or hk, ?_, ?_, ?_⟩
  · have herr := abs_share_sub_le hk total
    have herror : shareError k total =
        1 / 2 + (k * total / 10000 + 1 / 2) * (6 / 2 ^ 53) := by
      unfold shareError roundingError
      ring
    rwa [herror] at herr
  · rintro rfl
    have hexact := share_eq_exactShare_or hk (show 0 * total ≤ 15 * 10 ^ 14 by omega)
    rw [exactShare_eq, Nat.zero_mul] at hexact
    omega
  · rintro rfl
    obtain ⟨hgrid, hdouble⟩ := exists_total ht
    exact ⟨_, _, hdouble, floor_finite hgrid, min_sumUnits_hundred total⟩
  · rintro rfl hle
    rw [min_sumUnits_hundred, totalUnits_of_le hle, Nat.mul_div_cancel_left _ unitsPerOne_pos, min_self]

/-- A total that is no half of anything. -/
theorem share_nearlyExact_third :
    3333 ≤ 10000 ∧ 90 < wholeLimit ∧
      ∃ x n, Numeral.readDouble "33.33" = .ok x ∧ share x 90 = .ok n ∧ n = exactShare 3333 90 := by
  have hlimit : 90 < wholeLimit := by decide +kernel
  obtain ⟨x, n, hx, hn, -, hexact, -⟩ := share_nearlyExact (k := 3333) (by decide) hlimit
  have htext : percentText 3333 = "33.33" := by decide +kernel
  rw [htext] at hx
  refine ⟨by decide, hlimit, x, n, hx, hn, ?_⟩
  rcases hexact (by decide) with heq | ⟨hhalf, -⟩
  · exact heq
  · exact absurd hhalf (by decide)

/-- **A share is not always the exact one.**  Of a total of 25 the half in 58 percent is lost; adding
the half takes one half of `2^53 + 2`, which is a double, to the next; and all of a total beyond
`2^53` is its double. -/
theorem share_notExact :
    (∃ x, Numeral.readDouble "58.00" = .ok x ∧ share x 25 = .ok 14) ∧ exactShare 5800 25 = 15 ∧
      (∃ x, Numeral.readDouble "50.00" = .ok x ∧ share x (2 ^ 53 + 2) = .ok (2 ^ 52 + 2)) ∧
      exactShare 5000 (2 ^ 53 + 2) = 2 ^ 52 + 1 ∧
      (∃ x, Numeral.readDouble "100.00" = .ok x ∧ share x (2 ^ 53 + 1) = .ok (2 ^ 53)) ∧
      exactShare 10000 (2 ^ 53 + 1) = 2 ^ 53 + 1 ∧
      ¬ ∀ k total : Nat, k ≤ 10000 → total < wholeLimit →
        ∃ x, Numeral.readDouble (percentText k) = .ok x ∧
          share x total = .ok (exactShare k total) := by
  have hread : ∀ {k : Nat} {text : String}, k ≤ 10000 → percentText k = text →
      Numeral.readDouble text = .ok (nearest false k 100) := by
    rintro k _ hk rfl
    exact readDouble_percentText hk
  have hlost : share (nearest false 5800 100) 25 = .ok 14 := by decide +kernel
  have hmoved : share (nearest false 5000 100) (2 ^ 53 + 2) = .ok (2 ^ 52 + 2) := by decide +kernel
  have hwhole : share (nearest false 10000 100) (2 ^ 53 + 1) = .ok (2 ^ 53) := by decide +kernel
  have hexact : exactShare 5800 25 = 15 := by rw [exactShare_eq]; decide
  refine ⟨⟨_, hread (by decide) (by decide +kernel), hlost⟩, hexact,
    ⟨_, hread (by decide) (by decide +kernel), hmoved⟩, by rw [exactShare_eq]; decide,
    ⟨_, hread (by decide) (by decide +kernel), hwhole⟩, by rw [exactShare_eq]; decide, fun h => ?_⟩
  obtain ⟨x, hx, hn⟩ := h 5800 25 (by decide) (by decide +kernel)
  rw [readDouble_percentText (by decide)] at hx
  obtain rfl := Except.ok.inj hx
  rw [hexact] at hn
  exact absurd (hlost.symm.trans hn) (by decide)

end DeviceSampling
