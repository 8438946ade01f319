/-
# Shortest decimal text of a double

A double is written with the fewest significant digits that read back as the same double;
of two such digit strings the nearer one is taken, and of two equally near ones the even.
Both neighbours of the value on each decimal grid are tried, with 1, 2, ... 17 digits, in
exact integer arithmetic.

* `Binary64.shortest` gives the digits and the decimal exponent of a positive magnitude;
* `Binary64.toText` lays them out: positional when the exponent lies in `-4 .. 15`, with at
  least one place after the point, otherwise scientific with a signed exponent of at least
  two digits.
-/
import DeviceSampling.Number.Binary64

namespace DeviceSampling
namespace Binary64

/-! ## 1. The digits -/

/-- A decimal `digits · 10^exponent`. -/
structure Decimal where
  digits : Nat
  exponent : Int
  deriving DecidableEq, Repr

/-- The number of digits of a natural number in base ten. -/
def digitCount (n : Nat) : Nat := (Nat.toDigits 10 n).length

/-- `units / 10^exponent` as a quotient of naturals, both sides counted in units. -/
def overPowerOfTen (units : Nat) (exponent : Int) : Nat × Nat :=
  if 0 ≤ exponent then (units, unitsPerOne * 10 ^ exponent.toNat)
  else (units * 10 ^ (-exponent).toNat, unitsPerOne)

/-- Whether the decimal is nearest to the magnitude among the doubles. -/
def Decimal.readsAs (d : Decimal) (units : Nat) : Bool :=
  if 0 ≤ d.exponent then
    nearestUnits (d.digits * 10 ^ d.exponent.toNat * unitsPerOne) 1 = units
  else nearestUnits (d.digits * unitsPerOne) (10 ^ (-d.exponent).toNat) = units

/-- The decimal exponent of a positive magnitude: the `e` with `10^e ≤ value < 10^(e+1)`.
The least positive double exceeds `10^-324`, so 350 places leave only whole digits. -/
def leadingExponent (units : Nat) : Int :=
  (digitCount (units * 10 ^ 350 / unitsPerOne) : Int) - 351

/-- The neighbours of the magnitude on the grid `10^exponent` that read back as it, the better
one if both do. -/
def onDecimalGrid (units : Nat) (exponent : Int) : Option Decimal :=
  let (num, den) := overPowerOfTen units exponent
  let low : Decimal := ⟨num / den, exponent⟩
  let high : Decimal := ⟨num / den + 1, exponent⟩
  let remainder := num % den
  match low.readsAs units, high.readsAs units with
  | true, true =>
    if 2 * remainder < den then some low
    else if den < 2 * remainder then some high
    else if low.digits % 2 = 0 then some low else some high
  | true, false => some low
  | false, true => some high
  | false, false => none

/-- The first of the grids `10^(top - count)`, `10^(top - count - 1)`, ... with a decimal that
reads back; the last grid answers with the value rounded down if none does. -/
def firstOnGrids (units : Nat) (top : Int) : Nat → Nat → Decimal
  | 0, count =>
    let (num, den) := overPowerOfTen units (top - count)
    ⟨num / den, top - count⟩
  | tries + 1, count =>
    match onDecimalGrid units (top - count) with
    | some d => d
    | none => firstOnGrids units top tries (count + 1)

/-- The shortest decimal of a positive magnitude: at most 17 digits are needed. -/
def shortest (units : Nat) : Decimal :=
  firstOnGrids units (leadingExponent units) 17 0

/-! ## 2. The layout -/

/-- Drops the zeros at the end. -/
def withoutTrailingZeros (ds : List Char) : List Char :=
  (ds.reverse.dropWhile (· = '0')).reverse

/-- Digits with a point after the `whole`-th, padded with zeros on either side. -/
def positional (ds : List Char) (whole : Int) : List Char :=
  if whole ≤ 0 then '0' :: '.' :: (List.replicate (-whole).toNat '0' ++ ds)
  else
    let padded := ds ++ List.replicate (whole.toNat - ds.length) '0'
    let fraction := padded.drop whole.toNat
    padded.take whole.toNat ++ '.' :: (if fraction.isEmpty then ['0'] else fraction)

/-- Digits with a point after the first, and the exponent with its sign. -/
def scientific (ds : List Char) (exponent : Int) : List Char :=
  let mantissa := match ds with
    | d :: rest@(_ :: _) => d :: '.' :: rest
    | _ => ds
  let e := Nat.toDigits 10 exponent.natAbs
  mantissa ++ 'e' :: (if exponent < 0 then '-' else '+') ::
    (List.replicate (2 - e.length) '0' ++ e)

/-- The text of a positive magnitude. -/
def magnitudeChars (units : Nat) : List Char :=
  let d := shortest units
  let all := Nat.toDigits 10 d.digits
  let exponent := d.exponent + all.length - 1
  let ds := withoutTrailingZeros all
  if -4 ≤ exponent ∧ exponent < 16 then positional ds (exponent + 1)
  else scientific ds exponent

/-- The decimal text of a double. -/
def toText : Binary64 → String
  | nan => "nan"
  | infinite s => if s then "-inf" else "inf"
  | finite s u _ =>
    let body := if u = 0 then ['0', '.', '0'] else magnitudeChars u
    String.ofList (if s then '-' :: body else body)

end Binary64
end DeviceSampling
