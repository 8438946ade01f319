/-
# A clock of virtual time

A clock on which a sleep takes no time: it only moves the clock on and is noted.

* `VirtualClock.sleep` and `VirtualClock.advance` move the clock by the same sum; only a sleep is
  noted (`sleeps_sleep`, `sleeps_advance`).
-/
import DeviceSampling.Number.Binary64

namespace DeviceSampling

/-- The time, and the sleeps so far. -/
structure VirtualClock where
  now : Binary64 := Binary64.zero
  sleeps : List Binary64 := []

namespace VirtualClock

/-- Moves the clock on. -/
def advance (c : VirtualClock) (seconds : Binary64) : VirtualClock :=
  { c with now := c.now + seconds }

/-- Moves the clock on and notes the sleep. -/
def sleep (c : VirtualClock) (seconds : Binary64) : VirtualClock :=
  { c.advance seconds with sleeps := c.sleeps ++ [seconds] }

@[simp] theorem sleeps_sleep (c : VirtualClock) (seconds : Binary64) :
    (c.sleep seconds).sleeps = c.sleeps ++ [seconds] := rfl

@[simp] theorem sleeps_advance (c : VirtualClock) (seconds : Binary64) :
    (c.advance seconds).sleeps = c.sleeps := rfl

end VirtualClock
end DeviceSampling
