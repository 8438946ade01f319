/-
# How far rounding goes

Rounding to 53 bits keeps what has 53 bits, does not pass it from either side, and moves any other
quotient by at most one part in `2^53`, unless the quotient is so small that its last bit is one
unit.  Several roundings in a row multiply their errors; how many there were is all that is kept of
them.

* `nearestUnits_mul`: **what has 53 bits is kept;** `le_nearestUnits`, `nearestUnits_le_of_lt_half`;
* `Within`: equal up to a number of roundings;
* `within_nearestUnits`: **one rounding;** `Within.trans`, `Within.mul`, `Within.add`;
* `Within.abs_sub_le`: the error of five roundings.
-/
import Mathlib.Algebra.Order.Ring.Unbundled.Rat
import Mathlib.Data.Rat.Cast.CharZero
import Mathlib.Tactic.FieldSimp
import Mathlib.Tactic.GCongr
import Mathlib.Tactic.Linarith
import Mathlib.Tactic.NormNum
import Mathlib.Tactic.Positivity
import Mathlib.Tactic.Ring
import DeviceSampling.Proofs.DoubleRange

namespace DeviceSampling
namespace Binary64

variable {n d u : Nat}

/-! ## 1. Numbers of 53 bits -/

/-- Rounding does not fall below a multiple of its step. -/
theorem le_nearestUnits_of_dvd (hd : 0 < d) (hu : 2 ^ ((n / d).log2 - 52) ∣ u) (h : u * d ≤ n) :
    u ≤ nearestUnits n d := by
  obtain ⟨k, rfl⟩ := hu
  simp only [nearestUnits]
  generalize 2 ^ ((n / d).log2 - 52) = step at h ⊢
  rcases Nat.eq_zero_or_pos step with rfl | hstep
  · simp
  have hk : k * (d * step) ≤ n := by
    calc k * (d * step) = step * k * d := by rw [Nat.mul_comm d, ← Nat.mul_assoc, Nat.mul_comm k]
      _ ≤ n := h
  have hround : k ≤ roundHalfEven n (d * step) :=
    Nat.le_trans ((Nat.le_div_iff_mul_le (Nat.mul_pos hd hstep)).2 hk) (div_le_roundHalfEven _ _)
  rw [Nat.mul_comm]
  exact Nat.mul_le_mul_right step hround

/-- **Rounding does not pass a number of 53 bits** from above. -/
theorem le_nearestUnits (hs : Significant u) (hd : 0 < d) (h : u * d ≤ n) :
    u ≤ nearestUnits n d := by
  have hq : u ≤ n / d := (Nat.le_div_iff_mul_le hd).2 h
  rcases Nat.eq_zero_or_pos u with rfl | hpos
  · exact Nat.zero_le _
  have hlog : u.log2 ≤ (n / d).log2 := (Nat.le_log2 (by omega)).2
    (Nat.le_trans (Nat.log2_self_le (by omega)) hq)
  rcases Nat.lt_or_eq_of_le hlog with hlt | heq
  · -- a shorter number lies below the power of two that the quotient begins with
    have hbelow : u ≤ 2 ^ (n / d).log2 :=
      Nat.le_of_lt (Nat.lt_of_lt_of_le Nat.lt_log2_self (Nat.pow_le_pow_right (by decide) hlt))
    refine Nat.le_trans hbelow (le_nearestUnits_of_dvd hd (Nat.pow_dvd_pow 2 (by omega)) ?_)
    calc 2 ^ (n / d).log2 * d ≤ n / d * d :=
          Nat.mul_le_mul_right d (Nat.log2_self_le (by omega))
      _ ≤ n := Nat.div_mul_le_self n d
  · refine le_nearestUnits_of_dvd hd ?_ h
    rw [← heq]
    exact hs

/-- **What has 53 bits is kept.** -/
theorem nearestUnits_mul (hs : Significant u) (hd : 0 < d) : nearestUnits (u * d) d = u :=
  Nat.le_antisymm (nearestUnits_le hs hd (Nat.le_refl _)) (le_nearestUnits hs hd (Nat.le_refl _))

theorem nearestUnits_zero (hd : 0 < d) : nearestUnits 0 d = 0 := by
  have hkept := nearestUnits_mul (Nat.dvd_zero _) hd
  rwa [Nat.zero_mul] at hkept

/-- From less than half a step above a number of 53 bits, rounding comes down to it. -/
theorem nearestUnits_le_of_lt_half (hs : Significant u)
    (h : 2 * n < (2 * u + 2 ^ (u.log2 - 52)) * d) : nearestUnits n d ≤ u := by
  have hd : 0 < d := by
    rcases Nat.eq_zero_or_pos d with rfl | hd
    · simp at h
    · exact hd
  rcases Nat.lt_or_ge (u * d) n with habove | hle
  · obtain ⟨k, hk⟩ := hs
    have hlast : u + 2 ^ (u.log2 - 52) ≤ 2 ^ (u.log2 + 1) := by
      obtain ⟨m, hm⟩ : 2 ^ (u.log2 - 52) ∣ 2 ^ (u.log2 + 1) := Nat.pow_dvd_pow 2 (by omega)
      have hlt : u < 2 ^ (u.log2 + 1) := Nat.lt_log2_self
      rw [hm] at hlt ⊢
      generalize 2 ^ (u.log2 - 52) = step at hk hlt ⊢
      rw [hk] at hlt ⊢
      rw [← Nat.mul_succ]
      exact Nat.mul_le_mul_left step (Nat.lt_of_mul_lt_mul_left hlt)
    -- so the quotient has as many bits as the number, and the same step
    have hq : n / d < 2 ^ (u.log2 + 1) := by
      refine Nat.lt_of_lt_of_le ((Nat.div_lt_iff_lt_mul hd).2 ?_) hlast
      rw [Nat.add_mul] at h ⊢
      rw [Nat.mul_assoc] at h
      omega
    have hlog : (n / d).log2 = u.log2 := by
      refine Nat.le_antisymm (log2_lt_of_lt_two_pow hq) ?_
      rcases Nat.eq_zero_or_pos u with rfl | hpos
      · simp
      have hu : u ≤ n / d := (Nat.le_div_iff_mul_le hd).2 (Nat.le_of_lt habove)
      exact (Nat.le_log2 (by omega)).2 (Nat.le_trans (Nat.log2_self_le (by omega)) hu)
    simp only [nearestUnits]
    rw [hlog]
    generalize 2 ^ (u.log2 - 52) = step at h hk ⊢
    have hround : roundHalfEven n (d * step) ≤ k := by
      refine roundHalfEven_le_of_lt ?_
      calc 2 * n < (2 * u + step) * d := h
        _ = (2 * k + 1) * (d * step) := by rw [hk]; ring
    rw [hk, Nat.mul_comm]
    exact Nat.mul_le_mul_left step hround
  · exact nearestUnits_le hs hd hle

/-! ## 2. One rounding -/

/-- The nearest integer is no more than one half away. -/
theorem roundHalfEven_near (hd : 0 < d) : 2 * (roundHalfEven n d * d) ≤ 2 * n + d ∧
    2 * n ≤ 2 * (roundHalfEven n d * d) + d := by
  have hdiv : n / d * d + n % d = n := by rw [Nat.mul_comm]; exact Nat.div_add_mod n d
  have hmod : n % d < d := Nat.mod_lt n hd
  simp only [roundHalfEven]
  split
  · omega
  · split
    · rw [Nat.add_mul]
      omega
    · rcases Nat.mod_two_eq_zero_or_one (n / d) with heven | hodd
      · rw [heven, Nat.add_zero]
        omega
      · rw [hodd, Nat.add_mul]
        omega

/-- The error of one rounding is one part in `2^53`. -/
def roundingError : ℚ := 1 / 2 ^ 53

/-- **Equal up to a number of roundings.** -/
def Within (roundings : Nat) (a b : ℚ) : Prop :=
  b * (1 - roundingError) ^ roundings ≤ a ∧ a ≤ b * (1 + roundingError) ^ roundings

/-- A quotient without a bit below one unit. -/
def Long (n d : Nat) : Prop := n = 0 ∨ 2 ^ 52 * d ≤ n

/-- **One rounding** of a quotient that is long enough. -/
theorem within_nearestUnits (hd : 0 < d) (h : Long n d) : Within 1 (nearestUnits n d) (n / d : ℚ) := by
  rcases h with rfl | h
  · simp [Within, nearestUnits_zero hd]
  · have hq : 2 ^ 52 ≤ n / d := (Nat.le_div_iff_mul_le hd).2 h
    have hlog : 52 ≤ (n / d).log2 := (Nat.le_log2 (by omega)).2 hq
    have hstep : 2 ^ 52 * (d * 2 ^ ((n / d).log2 - 52)) ≤ n := by
      calc 2 ^ 52 * (d * 2 ^ ((n / d).log2 - 52)) = 2 ^ (52 + ((n / d).log2 - 52)) * d := by
            rw [Nat.pow_add]; ring
        _ = 2 ^ (n / d).log2 * d := by rw [Nat.add_sub_cancel' hlog]
        _ ≤ n / d * d := Nat.mul_le_mul_right d (Nat.log2_self_le (by omega))
        _ ≤ n := Nat.div_mul_le_self n d
    have hnear := roundHalfEven_near (n := n) (Nat.mul_pos hd (Nat.two_pow_pos ((n / d).log2 - 52)))
    simp only [nearestUnits]
    generalize 2 ^ ((n / d).log2 - 52) = step at hstep hnear ⊢
    generalize roundHalfEven n (d * step) = r at hnear ⊢
    have hpos : (0 : ℚ) < d := by exact_mod_cast hd
    have hstepQ : (2 : ℚ) ^ 52 * (d * step) ≤ n := by exact_mod_cast hstep
    have hbelow : (2 : ℚ) * (r * (d * step)) ≤ 2 * n + d * step := by exact_mod_cast hnear.1
    have habove : (2 : ℚ) * n ≤ 2 * (r * (d * step)) + d * step := by exact_mod_cast hnear.2
    have hround : ((r * step : Nat) : ℚ) * d = r * (d * step) := by push_cast; ring
    unfold Within roundingError
    rw [pow_one, pow_one, div_mul_eq_mul_div, div_mul_eq_mul_div, div_le_iff₀ hpos, le_div_iff₀ hpos,
      hround]
    constructor
    · linarith
    · linarith

/-! ## 3. Several roundings -/

section Errors

variable {i j : Nat} {a b c e : ℚ}

theorem roundingError_nonneg : 0 ≤ 1 - roundingError ∧ 1 - roundingError ≤ 1 ∧
    1 ≤ 1 + roundingError := by
  unfold roundingError
  norm_num

/-- **One after the other.** -/
theorem Within.trans (hab : Within i a b) (hbc : Within j b c) : Within (i + j) a c := by
  obtain ⟨hlow, -, hhigh⟩ := roundingError_nonneg
  constructor
  · calc c * (1 - roundingError) ^ (i + j)
        = c * (1 - roundingError) ^ j * (1 - roundingError) ^ i := by ring
      _ ≤ b * (1 - roundingError) ^ i := by gcongr; exact hbc.1
      _ ≤ a := hab.1
  · have hpow : 0 ≤ (1 + roundingError) ^ i := by positivity
    calc a ≤ b * (1 + roundingError) ^ i := hab.2
      _ ≤ c * (1 + roundingError) ^ j * (1 + roundingError) ^ i := by gcongr; exact hbc.2
      _ = c * (1 + roundingError) ^ (i + j) := by ring

theorem Within.nonneg (h : Within i a b) (hb : 0 ≤ b) : 0 ≤ a := by
  obtain ⟨hlow, -, -⟩ := roundingError_nonneg
  exact le_trans (by positivity) h.1

/-- **Two factors.** -/
theorem Within.mul (hab : Within i a b) (hce : Within j c e) (hb : 0 ≤ b) (he : 0 ≤ e) :
    Within (i + j) (a * c) (b * e) := by
  obtain ⟨hlow, -, hhigh⟩ := roundingError_nonneg
  have ha := hab.nonneg hb
  have hc := hce.nonneg he
  constructor
  · calc b * e * (1 - roundingError) ^ (i + j)
        = b * (1 - roundingError) ^ i * (e * (1 - roundingError) ^ j) := by ring
      _ ≤ a * c := by gcongr; exacts [hab.1, hce.1]
  · calc a * c ≤ b * (1 + roundingError) ^ i * (e * (1 + roundingError) ^ j) := by
          gcongr; exacts [hab.2, hce.2]
      _ = b * e * (1 + roundingError) ^ (i + j) := by ring

theorem Within.refl (a : ℚ) : Within 0 a a := by
  simp [Within]

/-- A factor, or a divisor, that is exact. -/
theorem Within.div (h : Within i a b) (hb : 0 ≤ b) (hc : 0 ≤ c) : Within i (a / c) (b / c) := by
  have hmul := h.mul (Within.refl (1 / c)) hb (by positivity)
  simpa [div_eq_mul_inv] using hmul

/-- **A term that is exact** makes the error no greater. -/
theorem Within.add (h : Within i a b) (hc : 0 ≤ c) : Within i (a + c) (b + c) := by
  obtain ⟨hlow, hone, hhigh⟩ := roundingError_nonneg
  have hless : (1 - roundingError) ^ i ≤ 1 := pow_le_one₀ hlow hone
  have hmore : 1 ≤ (1 + roundingError) ^ i := one_le_pow₀ hhigh
  constructor
  · calc (b + c) * (1 - roundingError) ^ i
        = b * (1 - roundingError) ^ i + c * (1 - roundingError) ^ i := by ring
      _ ≤ a + c * 1 := by gcongr; exact h.1
      _ = a + c := by ring
  · calc a + c = a + c * 1 := by ring
      _ ≤ b * (1 + roundingError) ^ i + c * (1 + roundingError) ^ i := by gcongr; exact h.2
      _ = (b + c) * (1 + roundingError) ^ i := by ring

/-- **Five roundings** err by less than six times the error of one. -/
theorem Within.abs_sub_le (h : Within 5 a b) (hb : 0 ≤ b) : |a - b| ≤ b * (6 * roundingError) := by
  have hlow : 1 - 6 * roundingError ≤ (1 - roundingError) ^ 5 := by
    norm_num [roundingError]
  have hhigh : (1 + roundingError) ^ 5 ≤ 1 + 6 * roundingError := by
    norm_num [roundingError]
  rw [abs_sub_le_iff]
  constructor
  · have hup := mul_le_mul_of_nonneg_left hhigh hb
    linarith [h.2]
  · have hdown := mul_le_mul_of_nonneg_left hlow hb
    linarith [h.1]

end Errors

end Binary64
end DeviceSampling
