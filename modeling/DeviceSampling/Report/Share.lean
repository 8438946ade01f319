/-
# A symbol's share of an event

A report gives a symbol's part of an event as a percentage.  The share is that percentage of
the event's total, rounded half up, and never more than the total.

* `share` computes it in double precision, the percentage divided by one hundred first;
* `share_le_total`: a share never exceeds the total.
-/
import DeviceSampling.Number.Binary64

namespace DeviceSampling

/-- Why a share has no value. -/
inductive ShareFault where
  /-- The total is beyond the range of the doubles. -/
  | totalTooLarge
  /-- The share is infinite. -/
  | infinite
  /-- The share is not a number. -/
  | notANumber
  deriving DecidableEq, Repr

/-- The message of a share fault. -/
def ShareFault.message : ShareFault → String
  | .totalTooLarge => "int too large to convert to float"
  | .infinite => "cannot convert float infinity to integer"
  | .notANumber => "cannot convert float NaN to integer"

/-- One half. -/
def Binary64.half : Binary64 := .nearest false 1 2

/-- The integer nearest to a double, a half going up. -/
def roundHalfUp (x : Binary64) : Except ShareFault Int :=
  match (x + Binary64.half).floor with
  | .ok n => .ok n
  | .error .infinite => .error .infinite
  | .error .notANumber => .error .notANumber

/-- The number of events of a symbol with a percentage of a total. -/
def share (percentage : Binary64) (total : Int) : Except ShareFault Int :=
  match Binary64.ofInt? total with
  | none => .error .totalTooLarge
  | some t => (roundHalfUp (percentage.divNat 100 * t)).map (min · total)

/-- **A share is no more than the total.** -/
theorem share_le_total {percentage : Binary64} {total n : Int}
    (h : share percentage total = .ok n) : n ≤ total := by
  unfold share at h
  split at h
  · simp at h
  · next t _ =>
    generalize roundHalfUp (percentage.divNat 100 * t) = rounded at h
    match rounded, h with
    | .ok v, h =>
      simp only [Except.map, Except.ok.injEq] at h
      omega

end DeviceSampling
