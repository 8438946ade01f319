/-
# Configuration

The settings of a run: how to reach the device, and how to drive the sampler on it.  A number
that is only used later is kept as it was written, an integer of any size or a double.

* the defaults are those of the structures' fields;
* `Quantity.toDouble?` is undefined on an integer beyond the doubles.
-/
import DeviceSampling.Polling

namespace DeviceSampling

/-! ## 1. Numbers as written -/

/-- A number of a configuration. -/
inductive Quantity where
  | int (n : Int)
  | double (x : Binary64)
  deriving DecidableEq

namespace Quantity

/-- The number as a double. -/
def toDouble? : Quantity → Option Binary64
  | int n => Binary64.ofInt? n
  | double x => some x

/-- The number as a double, or the fault of an integer that is beyond them. -/
def toDouble (q : Quantity) : Except Fault Binary64 :=
  match q.toDouble? with
  | some x => .ok x
  | none => .error .integerTooLarge

/-- Whether the number is zero or below it. -/
def isNonPositive : Quantity → Bool
  | int n => n ≤ 0
  | double x => x.le Binary64.zero

end Quantity

/-! ## 2. Settings -/

/-- How to reach the device. -/
structure AdbConfig where
  adbPath : String := "adb"
  serial : Option String := none
  timeout : Quantity := .double (.ofNat 30)
  deriving DecidableEq

/-- Three retries, one second apart. -/
def defaultStartWait : PollingPolicy := ⟨3, .ofNat 1, by decide +kernel⟩

/-- Twelve retries, five seconds apart. -/
def defaultStopWait : PollingPolicy := ⟨12, .ofNat 5, by decide +kernel⟩

/-- How to drive the sampler. -/
structure SamplerConfig where
  binary : String := "simpleperf"
  /-- Where the sampler writes its record. -/
  recordPath : String := "/data/local/tmp/perf.data"
  /-- None: a recording takes as long as it takes. -/
  recordTimeout : Option Quantity := none
  startWait : PollingPolicy := defaultStartWait
  stopWait : PollingPolicy := defaultStopWait
  deriving DecidableEq

/-- All settings. -/
structure Config where
  adb : AdbConfig := {}
  sampler : SamplerConfig := {}
  deriving DecidableEq

end DeviceSampling
