/-
# Bounded polling

A condition is checked, and checked again after a fixed delay, until it holds or a number of
retries is used up.

* `PollingPolicy` holds the number of retries and the delay; the delay is not negative;
* `pollUntil` is the dialogue: with `n` retries at most `n + 1` checks, and a sleep between two
  checks only.
-/
import DeviceSampling.Dialog

namespace DeviceSampling

/-! ## 1. Policies -/

/-- How often to check again, and how long to wait before it. -/
structure PollingPolicy where
  maxRetries : Nat
  delay : Binary64
  delay_nonneg : delay.lt Binary64.zero = false
  deriving DecidableEq

/-- Why a policy is not one. -/
inductive PolicyFault where
  | negativeRetries
  | negativeDelay
  deriving DecidableEq, Repr

/-- The message of a policy fault. -/
def PolicyFault.message : PolicyFault → String
  | .negativeRetries => "max_retries must be >= 0"
  | .negativeDelay => "delay_s must be >= 0"

namespace PollingPolicy

/-- The policy with the given numbers, unless one of them is negative. -/
def make (maxRetries : Int) (delay : Binary64) : Except PolicyFault PollingPolicy :=
  if maxRetries < 0 then .error .negativeRetries
  else if h : delay.lt Binary64.zero = false then .ok ⟨maxRetries.toNat, delay, h⟩
  else .error .negativeDelay

/-- The time that all sleeps of a policy take; undefined if the number of retries is beyond the
doubles. -/
def maxWait? (p : PollingPolicy) : Option Binary64 :=
  (Binary64.ofInt? p.maxRetries).map (· * p.delay)

end PollingPolicy

/-! ## 2. The loop -/

variable {C : Type} {R : C → Type}

/-- Checks the condition, and up to `left` times again after a delay; `used` retries are behind. -/
def pollFrom (condition : Dialog C R Bool) (delay : Binary64) (what : String) (used : Nat) :
    Nat → Dialog C R Bool
  | 0 => condition.bind fun holds =>
    if holds then .done true
    else (Dialog.say .debug .polling
      (what ++ " not met after " ++ toString used ++ " retries")).bind fun _ => .done false
  | left + 1 => condition.bind fun holds =>
    if holds then .done true
    else (Dialog.pause delay).bind fun _ => pollFrom condition delay what (used + 1) left

/-- Polls a condition under a policy: true once it holds, false when the retries are used up.
The message at the end names what was waited for. -/
def pollUntil (condition : Dialog C R Bool) (policy : PollingPolicy) (what : String) :
    Dialog C R Bool :=
  pollFrom condition policy.delay what 0 policy.maxRetries

end DeviceSampling
