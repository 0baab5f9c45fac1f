import UptimeSync.Duration
import UptimeSync.Event.Handler

namespace UptimeSync

/-- The timers of a runtime, which go off when they are due as far ahead as they reach. -/
structure Timers where
  /-- The furthest that a timer is set ahead, in milliseconds: thirty years of 365 days. -/
  furthest : Nat := 30 * 365 * 24 * 60 * 60 * 1000
  /-- The seconds that the clock cannot add to an instant. -/
  limit : Nat := Int64.maxValue.toInt.toNat
  furthest_pos : 0 < furthest := by decide

namespace Timers

/-- The milliseconds from one poll to the next, of which there is at least one. -/
def period (timers : Timers) (pollMs : UInt64) : Nat :=
  min timers.furthest (max 1 pollMs.toNat)

/-- The instant at which a wait is given up. A timeout that the clock cannot add is cut. -/
def deadline (timers : Timers) (timeout : Duration) : Nat :=
  if timers.limit ≤ timeout.seconds then timers.furthest else timeout.ceilMillis

theorem period_pos (timers : Timers) (pollMs : UInt64) : 0 < timers.period pollMs :=
  Nat.lt_min.mpr ⟨timers.furthest_pos, Nat.le_max_left 1 pollMs.toNat⟩

end Timers

/-- The first of the instants 0, `period`, 2 `period`, … that is not before `t`. -/
def pollAt (period t : Nat) : Nat :=
  (t + period - 1) / period * period

/-- How an event is waited for, in milliseconds from the start: whether it has occurred is looked up at
the start and then once in a period, until the deadline. -/
structure Polling where
  kind : EventKind
  timeout : Duration
  period : Nat
  deadline : Nat
  period_pos : 0 < period

/-- A wait for an event, which stays occurred once it has. -/
structure Wait extends Polling where
  /-- The instant since which the event has occurred, if it has. -/
  since? : Option Nat := none

namespace Wait

/-- The first poll that finds the event occurred, unless the deadline comes before it. A poll at the
deadline still counts. -/
def metAt? (w : Wait) : Option Nat :=
  (w.since?.map (pollAt w.period)).filter (· ≤ w.deadline)

/-- The instant at which the wait ends. -/
def endsAt (w : Wait) : Nat := w.metAt?.getD w.deadline

/-- The result of the wait. -/
def result (w : Wait) : Except Error Unit :=
  if w.metAt?.isSome then .ok () else .error (.awaitTimeout w.kind w.timeout)

/-- Takes note of the store at an instant. -/
def observe (t : Nat) (s : Store) (w : Wait) : Wait :=
  if w.since?.isNone && w.kind.occurred s then { w with since? := some t } else w

end Wait
end UptimeSync
