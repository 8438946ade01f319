/-
# Which numbers are doubles

A whole number has a double if it rounds below `2^1024`.  The bound for that is the middle between
the greatest double and `2^1024`; the middle itself is a tie, and goes up.  A share of no more than
a hundred percent stays in the range, because rounding never passes a number of 53 bits.

* `nearestUnits_lt_iff`: **what is rounded below the end of the range;**
* `ofInt?_eq_none_iff`: which whole numbers have no double;
* `le_zero_of_ofInt?`: the double of an integer has its sign;
* `nearestUnits_le`: rounding does not pass a grid point;
* `shareProduct_finite`: **a percentage of up to a hundred has a finite share.**
-/
import DeviceSampling.Proofs.ShareRange

namespace DeviceSampling
namespace Binary64

/-! ## 1. The end of the range -/

theorem div_le_roundHalfEven (num den : Nat) : num / den ≤ roundHalfEven num den := by
  simp only [roundHalfEven]
  split
  · exact Nat.le_refl _
  · split
    · exact Nat.le_succ _
    · exact Nat.le_add_right _ _

theorem roundHalfEven_le_of_le {num den k : Nat} (hden : 0 < den) (h : num ≤ k * den) :
    roundHalfEven num den ≤ k := by
  refine roundHalfEven_le_of_lt ?_
  rw [Nat.add_mul, Nat.mul_assoc]
  omega

/-- From the middle below an even `k` on, a quotient is rounded to `k` at least. -/
theorem le_roundHalfEven {num den k : Nat} (hden : 0 < den) (hk : k % 2 = 0)
    (h : (2 * k - 1) * den ≤ 2 * num) : k ≤ roundHalfEven num den := by
  rcases Nat.lt_or_ge (num / den) k with hlt | hge
  · have hdiv : den * (num / den) + num % den = num := Nat.div_add_mod num den
    have hmod : num % den < den := Nat.mod_lt num hden
    have hk₀ : 0 < k := Nat.lt_of_le_of_lt (Nat.zero_le _) hlt
    have hodd : 2 * k - 1 = 2 * (k - 1) + 1 := by omega
    have hexp : (2 * k - 1) * den = 2 * (den * (k - 1)) + den := by
      rw [hodd, Nat.add_mul, Nat.one_mul, Nat.mul_assoc, Nat.mul_comm (k - 1)]
    have hq : num / den = k - 1 := by
      rcases Nat.lt_or_ge (num / den) (k - 1) with hlow | hhigh
      · -- a smaller quotient leaves a whole step up to the middle
        have hstep : den * (num / den) + den ≤ den * (k - 1) := by
          rw [← Nat.mul_succ]
          exact Nat.mul_le_mul_left den hlow
        omega
      · omega
    rw [hq] at hdiv
    simp only [roundHalfEven, hq]
    split
    · omega
    · split
      · omega
      · omega
  · exact Nat.le_trans hge (div_le_roundHalfEven num den)

/-- **What is rounded below the end of the range:** what lies below the middle between the greatest
number of 53 bits and the end. -/
theorem nearestUnits_lt_iff {n e : Nat} :
    nearestUnits n 1 < 2 ^ 53 * 2 ^ e ↔ 2 * n < (2 * (2 ^ 53 - 1) + 1) * 2 ^ e := by
  refine ⟨fun h => Nat.lt_of_not_le fun hmid => Nat.not_le.2 h ?_, nearestUnits_lt⟩
  have hn : 2 ^ (52 + e) ≤ n := by
    rw [Nat.pow_add]
    have := Nat.two_pow_pos e
    omega
  have hlog : 52 + e ≤ n.log2 := by
    refine (Nat.le_log2 ?_).2 hn
    have := Nat.two_pow_pos (52 + e)
    omega
  simp only [nearestUnits]
  rw [Nat.div_one, Nat.one_mul]
  rcases Nat.lt_or_eq_of_le (show e ≤ n.log2 - 52 by omega) with hs | hs
  · -- a longer number lies beyond the end before it is rounded
    have hq : 2 ^ 52 ≤ n / 2 ^ (n.log2 - 52) := by
      rw [Nat.le_div_iff_mul_le (Nat.two_pow_pos _), ← Nat.pow_add,
        show 52 + (n.log2 - 52) = n.log2 by omega]
      exact Nat.log2_self_le (by have := Nat.two_pow_pos (52 + e); omega)
    calc 2 ^ 53 * 2 ^ e = 2 ^ 52 * 2 ^ (e + 1) := by rw [← Nat.pow_add, ← Nat.pow_add]; congr 1; omega
      _ ≤ 2 ^ 52 * 2 ^ (n.log2 - 52) :=
        Nat.mul_le_mul_left _ (Nat.pow_le_pow_right (by decide) hs)
      _ ≤ roundHalfEven n (2 ^ (n.log2 - 52)) * 2 ^ (n.log2 - 52) :=
        Nat.mul_le_mul_right _ (Nat.le_trans hq (div_le_roundHalfEven _ _))
  · rw [← hs]
    exact Nat.mul_le_mul_right _ (le_roundHalfEven (Nat.two_pow_pos e) (by decide) hmid)

theorem unitsPerOne_pos : 0 < unitsPerOne := by decide +kernel

/-- The least whole number without a double: the middle between the greatest double and
`2^1024`. -/
def wholeLimit : Nat := 2 ^ 1024 - 2 ^ 970

/-- **A whole number has no double exactly from the limit on.** -/
theorem ofInt?_eq_none_iff {n : Int} : ofInt? n = none ↔ wholeLimit ≤ n.natAbs := by
  have hrange : unitLimit ≤ nearestUnits (unitsPerOne * n.natAbs) 1 ↔ wholeLimit ≤ n.natAbs := by
    obtain ⟨e, hlimit, hmid⟩ : ∃ e, unitLimit = 2 ^ 53 * 2 ^ e ∧
        (2 * (2 ^ 53 - 1) + 1) * 2 ^ e = 2 * (unitsPerOne * wholeLimit) :=
      ⟨2045, by decide +kernel, by decide +kernel⟩
    rw [hlimit, ← Nat.not_lt, nearestUnits_lt_iff, hmid, Nat.not_lt,
      Nat.mul_le_mul_left_iff (by decide), Nat.mul_le_mul_left_iff unitsPerOne_pos]
  unfold ofInt? nearest ofUnits
  by_cases h : unitLimit ≤ nearestUnits (unitsPerOne * n.natAbs) 1
  · rw [dif_pos h]
    exact iff_of_true rfl (hrange.1 h)
  · rw [dif_neg h]
    exact iff_of_false (Option.some_ne_none _) (mt hrange.2 h)

/-- What has a double is finite. -/
theorem exists_finite_of_ofInt? {n : Int} {t : Binary64} (h : ofInt? n = some t) :
    ∃ s u hu, t = finite s u hu := by
  unfold ofInt? at h
  split at h
  · exact ⟨_, _, _, (Option.some.inj h).symm⟩
  · cases h

/-- **Rounding leaves nothing but zero at zero.** -/
theorem nearestUnits_pos {n : Nat} (hn : 0 < n) : 0 < nearestUnits n 1 := by
  have hpow : 2 ^ (n.log2 - 52) ≤ n :=
    Nat.le_trans (Nat.pow_le_pow_right (by decide) (Nat.sub_le _ _))
      (Nat.log2_self_le (Nat.pos_iff_ne_zero.1 hn))
  have hquotient : 0 < n / 2 ^ (n.log2 - 52) := Nat.div_pos hpow (Nat.two_pow_pos _)
  simp only [nearestUnits]
  rw [Nat.div_one, Nat.one_mul]
  exact Nat.mul_pos (Nat.lt_of_lt_of_le hquotient (div_le_roundHalfEven _ _)) (Nat.two_pow_pos _)

/-- Zero is the double of no units. -/
theorem exists_zero_eq : ∃ h, zero = finite false 0 h := by
  have hunits : nearestUnits (unitsPerOne * 0) 1 = 0 := by decide +kernel
  have hrange : ¬ unitLimit ≤ nearestUnits (unitsPerOne * 0) 1 := by
    rw [hunits]
    decide +kernel
  have hgrid : ∀ u (hu : OnGrid u), u = 0 → ∃ h, finite false u hu = finite false 0 h := by
    rintro _ hu rfl
    exact ⟨hu, rfl⟩
  unfold zero nearest ofUnits
  rw [dif_neg hrange]
  exact hgrid _ _ hunits

/-- A finite double is at most zero if its units are. -/
theorem le_zero_finite (s : Bool) (u : Nat) (hu : OnGrid u) :
    (finite s u hu).le zero = decide (signedUnits s u ≤ 0) := by
  obtain ⟨hz, hzero⟩ := exists_zero_eq
  rw [hzero]
  rfl

/-- **The double of an integer is at most zero exactly if the integer is.** -/
theorem le_zero_of_ofInt? {n : Int} {x : Binary64} (h : ofInt? n = some x) :
    x.le zero = decide (n ≤ 0) := by
  unfold ofInt? nearest ofUnits at h
  split at h
  · next s u hu hx =>
    cases h
    split at hx
    · cases hx
    · cases hx
      rw [le_zero_finite, decide_eq_decide]
      by_cases hneg : n < 0
      · rw [decide_eq_true hneg]
        simp only [signedUnits, if_true]
        omega
      · rw [decide_eq_false hneg]
        by_cases hzero : n = 0
        · subst hzero
          decide +kernel
        · have hpos := nearestUnits_pos (Nat.mul_pos unitsPerOne_pos (Int.natAbs_pos.2 hzero))
          simp only [signedUnits]
          generalize nearestUnits (unitsPerOne * n.natAbs) 1 = units at hpos
          simp
          omega
  · cases h

/-! ## 2. Shares of a total -/

/-- **Rounding does not pass a number of 53 bits.** -/
theorem nearestUnits_le {n d u : Nat} (hs : Significant u) (hd : 0 < d) (h : n ≤ u * d) :
    nearestUnits n d ≤ u := by
  have hq : n / d ≤ u := Nat.div_le_of_le_mul (by rwa [Nat.mul_comm])
  have hlog : (n / d).log2 ≤ u.log2 :=
    log2_lt_of_lt_two_pow (Nat.lt_of_le_of_lt hq Nat.lt_log2_self)
  -- the step at the quotient is none too long for the bound
  obtain ⟨k, hk⟩ : 2 ^ ((n / d).log2 - 52) ∣ u :=
    Nat.dvd_trans (Nat.pow_dvd_pow 2 (by omega)) hs
  simp only [nearestUnits]
  have hle : n ≤ k * (d * 2 ^ ((n / d).log2 - 52)) := by
    calc n ≤ u * d := h
      _ = 2 ^ ((n / d).log2 - 52) * k * d := by rw [← hk]
      _ = k * (d * 2 ^ ((n / d).log2 - 52)) := by
        rw [Nat.mul_comm _ k, Nat.mul_assoc, Nat.mul_comm d]
  calc roundHalfEven n (d * 2 ^ ((n / d).log2 - 52)) * 2 ^ ((n / d).log2 - 52)
      ≤ k * 2 ^ ((n / d).log2 - 52) := Nat.mul_le_mul_right _ (roundHalfEven_le_of_le
        (Nat.mul_pos hd (Nat.two_pow_pos _)) hle)
    _ = u := by rw [Nat.mul_comm, ← hk]

/-- The double of a quotient that does not pass a finite magnitude is finite, and does not pass it
either. -/
theorem ofUnits_finite {n d u : Nat} (s : Bool) (hu : OnGrid u) (hd : 0 < d) (h : n ≤ u * d) :
    ∃ v hv, ofUnits s n d = finite s v hv ∧ v ≤ u := by
  have hle := nearestUnits_le hu.2 hd h
  have hlt : ¬ unitLimit ≤ nearestUnits n d := Nat.not_le.2 (Nat.lt_of_le_of_lt hle hu.1)
  unfold ofUnits
  rw [dif_neg hlt]
  exact ⟨_, _, rfl, hle⟩

theorem significant_two_pow (e : Nat) : Significant (2 ^ e) := by
  have h := significant_mul_two_pow (r := 1) (s := e) (by decide)
  rwa [Nat.one_mul] at h

/-- One is a double. -/
theorem onGrid_unitsPerOne : OnGrid unitsPerOne := by
  have hlt : unitsPerOne < unitLimit := by decide +kernel
  obtain ⟨e, he⟩ : ∃ e, unitsPerOne = 2 ^ e := ⟨1074, rfl⟩
  refine ⟨hlt, ?_⟩
  rw [he]
  exact significant_two_pow e

/-- Whether a percentage is a number of up to a hundred, of either sign. -/
def atMostHundred : Binary64 → Bool
  | finite _ u _ => u ≤ 100 * unitsPerOne
  | _ => false

theorem exists_finite_of_atMostHundred {x : Binary64} (h : x.atMostHundred = true) :
    ∃ s u hu, x = finite s u hu ∧ u ≤ 100 * unitsPerOne := by
  match x with
  | finite s u hu => exact ⟨s, u, hu, rfl, of_decide_eq_true h⟩

theorem shareProduct_finite_left (s : Bool) (u : Nat) (hu : OnGrid u) (t : Binary64) :
    shareProduct (finite s u hu) t = ofUnits s u 100 * t := rfl

theorem finite_mul_finite (s s' : Bool) {u v : Nat} (hu : OnGrid u) (hv : OnGrid v) :
    finite s u hu * finite s' v hv = ofUnits (s != s') (u * v) unitsPerOne := by
  show mul (finite s u hu) (finite s' v hv) = _
  rw [mul]

/-- **A percentage of up to a hundred has a finite share** of any total that is a double. -/
theorem shareProduct_finite {x t : Binary64} {n : Int} (hx : x.atMostHundred = true)
    (ht : ofInt? n = some t) : ∃ s u hu, shareProduct x t = finite s u hu := by
  obtain ⟨s, u, hu, rfl, hle⟩ := exists_finite_of_atMostHundred hx
  obtain ⟨s', w, hw, rfl⟩ := exists_finite_of_ofInt? ht
  obtain ⟨v, hv, hdiv, hv₁⟩ := ofUnits_finite (n := u) (d := 100) s onGrid_unitsPerOne (by decide)
    (by rwa [Nat.mul_comm])
  obtain ⟨p, hp, hmul, -⟩ := ofUnits_finite (n := v * w) (d := unitsPerOne) (s != s') hw
    unitsPerOne_pos (by rw [Nat.mul_comm w]; exact Nat.mul_le_mul_right w hv₁)
  refine ⟨s != s', p, hp, ?_⟩
  rw [shareProduct_finite_left, hdiv, finite_mul_finite, hmul]

end Binary64
end DeviceSampling
