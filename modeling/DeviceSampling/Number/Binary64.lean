/-
# Binary64 numbers, exactly

Timeouts, delays and percentages are IEEE 754 double precision numbers.  A finite one is a
sign and a whole number of UNITS, the unit being `2^-1074`, the least positive double.  In
that scale every sum is a sum of integers, every comparison a comparison of integers, and
rounding is one function (`nearestUnits`): keep 53 significant bits of an exact quotient,
a tie going to the even neighbour.

* `nearest` rounds an exact quotient to a double; each operation is an exact quotient
  followed by `nearest`;
* the magnitude of a finite double is a grid point (`OnGrid`), and `nearestUnits` lands on the
  grid (`nearestUnits_significant`);
* `ofInt?` is undefined exactly where an integer rounds beyond the finite doubles.
-/
namespace DeviceSampling

-- powers of naturals are those of the core library, also where another instance is in scope
attribute [instance (high)] instPowNat
attribute [default_instance high] instPowNat

/-! ## 1. The grid -/

/-- The finite doubles lie below `2^1024`, that is below this many units. -/
def Binary64.unitLimit : Nat := 2 ^ 2098

/-- One, in units. -/
def Binary64.unitsPerOne : Nat := 2 ^ 1074

/-- At most 53 significant bits: the units are a multiple of the power of two that is left
of the leading 53 bits. -/
def Binary64.Significant (units : Nat) : Prop := 2 ^ (units.log2 - 52) ∣ units

/-- The magnitudes of the finite doubles, in units. -/
def Binary64.OnGrid (units : Nat) : Prop :=
  units < Binary64.unitLimit ∧ Binary64.Significant units

/-- A double precision number.  Zero has a sign; not-a-number is one value. -/
inductive Binary64 where
  | nan
  | infinite (negative : Bool)
  | finite (negative : Bool) (units : Nat) (onGrid : Binary64.OnGrid units)
  deriving DecidableEq

namespace Binary64

/-! ## 2. Rounding -/

/-- The integer nearest to `num / den`; a tie goes to the even one. -/
def roundHalfEven (num den : Nat) : Nat :=
  let q := num / den
  let r := num % den
  if 2 * r < den then q else if den < 2 * r then q + 1 else q + q % 2

/-- The 53-bit number of units nearest to `num / den` units.  The exponent cannot go below
that of one unit, because a subtraction of naturals stops at zero. -/
def nearestUnits (num den : Nat) : Nat :=
  let shift := (num / den).log2 - 52
  roundHalfEven num (den * 2 ^ shift) * 2 ^ shift

theorem roundHalfEven_le (num den : Nat) : roundHalfEven num den ≤ num / den + 1 := by
  unfold roundHalfEven
  dsimp only
  split
  · omega
  · split
    · omega
    · omega

theorem log2_lt_of_lt_two_pow {n k : Nat} (h : n < 2 ^ (k + 1)) : n.log2 ≤ k := by
  by_cases hn : n = 0
  · subst hn; simp
  · have := (Nat.log2_lt hn).2 h
    omega

/-- A product of a number of at most 53 bits, or of `2^53`, and a power of two keeps to
53 significant bits. -/
theorem significant_mul_two_pow {r s : Nat} (h : r ≤ 2 ^ 53) : Significant (r * 2 ^ s) := by
  unfold Significant
  rcases Nat.lt_or_eq_of_le h with h | h
  · have : r * 2 ^ s < 2 ^ (52 + s + 1) := by
      rw [show 52 + s + 1 = 53 + s by omega, Nat.pow_add]
      exact Nat.mul_lt_mul_of_pos_right h (Nat.two_pow_pos s)
    have hl := log2_lt_of_lt_two_pow this
    exact Nat.dvd_trans (Nat.pow_dvd_pow 2 (by omega)) (Nat.dvd_mul_left _ _)
  · subst h
    rw [← Nat.pow_add]
    exact Nat.pow_dvd_pow 2 (by rw [Nat.log2_two_pow]; omega)

/-- **Rounding lands on the grid** of 53-bit numbers. -/
theorem nearestUnits_significant (num den : Nat) : Significant (nearestUnits num den) := by
  unfold nearestUnits
  dsimp only
  apply significant_mul_two_pow
  refine Nat.le_trans (roundHalfEven_le _ _) ?_
  have hq : num / den < 2 ^ ((num / den).log2 + 1) := Nat.lt_log2_self
  have : num / (den * 2 ^ ((num / den).log2 - 52)) < 2 ^ 53 := by
    rw [← Nat.div_div_eq_div_mul]
    apply Nat.div_lt_of_lt_mul
    rw [← Nat.pow_add]
    exact Nat.lt_of_lt_of_le hq (Nat.pow_le_pow_right (by decide) (by omega))
  omega

/-- The double of a given sign nearest to `num / den` units. -/
def ofUnits (negative : Bool) (num den : Nat) : Binary64 :=
  if h : unitLimit ≤ nearestUnits num den then infinite negative
  else finite negative (nearestUnits num den) ⟨by omega, nearestUnits_significant num den⟩

/-- The double of a given sign nearest to the quotient `num / den`. -/
def nearest (negative : Bool) (num den : Nat) : Binary64 :=
  ofUnits negative (unitsPerOne * num) den

/-- Positive zero. -/
def zero : Binary64 := nearest false 0 1

/-- The double nearest to a natural number. -/
def ofNat (n : Nat) : Binary64 := nearest false n 1

instance : Inhabited Binary64 := ⟨zero⟩

/-- The double nearest to an integer, undefined where that is infinite. -/
def ofInt? (n : Int) : Option Binary64 :=
  match nearest (n < 0) n.natAbs 1 with
  | finite s u h => some (finite s u h)
  | _ => none

/-- The double nearest to `mantissa · 10^exponent`.  Far outside the range of the doubles the
power is not computed: with `digits` decimal digits in the mantissa the value lies between
`10^(digits + exponent - 1)` and `10^(digits + exponent)`. -/
def ofDecimal (negative : Bool) (mantissa : Nat) (exponent : Int) : Binary64 :=
  let magnitude : Int := (Nat.toDigits 10 mantissa).length + exponent
  if mantissa = 0 ∨ magnitude < -330 then nearest negative 0 1
  else if 310 < magnitude then infinite negative
  else if 0 ≤ exponent then nearest negative (mantissa * 10 ^ exponent.toNat) 1
  else nearest negative mantissa (10 ^ (-exponent).toNat)

/-! ## 3. Arithmetic -/

/-- A double that is a whole number of units, as a signed number of units. -/
def signedUnits (negative : Bool) (units : Nat) : Int :=
  if negative then -(units : Int) else units

/-- Sum.  An exact sum of zero is negative only if both terms are. -/
def add : Binary64 → Binary64 → Binary64
  | nan, _ | _, nan => nan
  | infinite s, infinite t => if s = t then infinite s else nan
  | infinite s, finite .. => infinite s
  | finite .., infinite t => infinite t
  | finite s u _, finite t v _ =>
    let sum := signedUnits s u + signedUnits t v
    ofUnits (if sum = 0 then s && t else sum < 0) sum.natAbs 1

/-- Product. -/
def mul : Binary64 → Binary64 → Binary64
  | nan, _ | _, nan => nan
  | infinite s, infinite t => infinite (s != t)
  | infinite s, finite t v _ => if v = 0 then nan else infinite (s != t)
  | finite s u _, infinite t => if u = 0 then nan else infinite (s != t)
  | finite s u _, finite t v _ => ofUnits (s != t) (u * v) unitsPerOne

/-- Quotient by a positive whole number. -/
def divNat (x : Binary64) (n : Nat) : Binary64 :=
  match x with
  | nan => nan
  | infinite s => infinite s
  | finite s u _ => ofUnits s u n

/-- The number with the other sign. -/
def negate : Binary64 → Binary64
  | nan => nan
  | infinite s => infinite !s
  | finite s u h => finite (!s) u h

instance : Add Binary64 := ⟨add⟩
instance : Mul Binary64 := ⟨mul⟩

/-! ## 4. Order -/

/-- `x < y`; false if either is not a number. -/
def lt : Binary64 → Binary64 → Bool
  | nan, _ | _, nan => false
  | infinite s, infinite t => s && !t
  | infinite s, finite .. => s
  | finite .., infinite t => !t
  | finite s u _, finite t v _ => signedUnits s u < signedUnits t v

/-- `x ≤ y`; false if either is not a number. -/
def le : Binary64 → Binary64 → Bool
  | nan, _ | _, nan => false
  | infinite s, infinite t => s || !t
  | infinite s, finite .. => s
  | finite .., infinite t => !t
  | finite s u _, finite t v _ => signedUnits s u ≤ signedUnits t v

/-- Whether the number is a whole one. -/
def isWhole : Binary64 → Bool
  | finite _ u _ => u % unitsPerOne = 0
  | _ => false

/-! ## 5. Integers again -/

/-- Why a double has no integer part. -/
inductive FloorFault where
  | infinite
  | notANumber
  deriving DecidableEq, Repr

/-- The greatest integer that is not above the number. -/
def floor : Binary64 → Except FloorFault Int
  | nan => .error .notANumber
  | infinite _ => .error .infinite
  | finite s u _ => .ok (Int.fdiv (signedUnits s u) unitsPerOne)

/-- The integer part, towards zero. -/
def truncate : Binary64 → Except FloorFault Int
  | nan => .error .notANumber
  | infinite _ => .error .infinite
  | finite s u _ => .ok (signedUnits s (u / unitsPerOne))

end Binary64
end DeviceSampling
