/-!
# The save timer

Saving is debounced: every edit puts the next save off until some time after it, and the owner of
the timer asks now and then whether the save is due.  Times and delays are counted in ticks of the
owner's clock, which may be as fine as it likes: its resolution is the number of ticks in a
millisecond.
-/

namespace Psychometrics

/-- A timer with its delay and the time at which the pending save is due, if one is pending. -/
structure Timer where
  delay : Nat
  deadline : Option Nat := none
  deriving DecidableEq

namespace Timer

/-- The delay of a timer that is not told otherwise, in milliseconds. -/
def defaultDelay : Nat :=
  400

/-- The longest delay: a day, in ticks of a clock with the given resolution. -/
def maxDelay (resolution : Nat := 1) : Nat :=
  24 * 60 * 60 * 1000 * resolution

/-- A timer with nothing pending on a clock with the given resolution.  A longer delay than the
longest one is cut to it. -/
def ofDelay (delay : Nat) (resolution : Nat := 1) : Timer :=
  { delay := min delay (maxDelay resolution) }

/-- Puts the save off until the delay has passed from now. -/
def schedule (timer : Timer) (now : Nat) : Timer :=
  { timer with deadline := some (now + timer.delay) }

/-- Gives up the pending save. -/
def cancel (timer : Timer) : Timer :=
  { timer with deadline := none }

/-- A save is pending. -/
def isPending (timer : Timer) : Bool :=
  timer.deadline.isSome

/-- A save is pending and its time has come. -/
def isDue (timer : Timer) (now : Nat) : Bool :=
  timer.deadline.any (· ≤ now)

/-- Says whether a save is due, and if so takes it to be done. -/
def takeDue (timer : Timer) (now : Nat) : Bool × Timer :=
  if timer.isDue now then (true, timer.cancel) else (false, timer)

end Timer

end Psychometrics
