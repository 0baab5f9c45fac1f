import Mathlib.Data.Nat.Find
import UptimeSync.Client.Wait

namespace UptimeSync

namespace Polling

variable (p : Polling) {occurred : Nat → Bool}

/-- The polling loop from one of its polls on: at each poll it is looked up whether the event has
occurred by then, and nothing but that or the deadline ends the loop. -/
def metFrom (occurred : Nat → Bool) (instant : Nat) : Option Nat :=
  if p.deadline < instant then none
  else if occurred instant then some instant
  else metFrom occurred (instant + p.period)
termination_by p.deadline + 1 - instant
decreasing_by
  have hperiod := p.period_pos
  omega

/-- What a wait gives, and the instant at which it gives it. -/
def outcome (occurred : Nat → Bool) : Except Error Unit × Nat :=
  match p.metFrom occurred 0 with
  | some instant => (.ok (), instant)
  | none => (.error (.awaitTimeout p.kind p.timeout), p.deadline)

/-- Holds of the number of polls from an instant on that have to be made in vain before one before the
deadline finds the event occurred. -/
structure MeetsAfter (occurred : Nat → Bool) (instant k : Nat) : Prop where
  inTime : instant + k * p.period ≤ p.deadline
  met : occurred (instant + k * p.period) = true
  inVain : ∀ j < k, occurred (instant + j * p.period) = false

variable {p} {instant k : Nat}

/-- A poll that is made in vain leaves one less to be made from the next poll on. -/
theorem MeetsAfter.next (hmeets : p.MeetsAfter occurred instant (k + 1)) :
    p.MeetsAfter occurred (instant + p.period) k := by
  have hlater (j : Nat) : instant + p.period + j * p.period = instant + (j + 1) * p.period := by
    rw [Nat.succ_mul]
    omega
  constructor
  · rw [hlater]
    exact hmeets.inTime
  · rw [hlater]
    exact hmeets.met
  · intro j hj
    rw [hlater]
    exact hmeets.inVain (j + 1) (Nat.succ_lt_succ hj)

theorem metFrom_of_meetsAfter (hmeets : p.MeetsAfter occurred instant k) :
    p.metFrom occurred instant = some (instant + k * p.period) := by
  induction k generalizing instant with
  | zero =>
    have hinTime := hmeets.inTime
    have hmet := hmeets.met
    rw [Nat.zero_mul, Nat.add_zero] at hinTime hmet ⊢
    rw [metFrom, if_neg (Nat.not_lt.mpr hinTime), if_pos hmet]
  | succ k ih =>
    have hinTime : instant ≤ p.deadline := Nat.le_trans (Nat.le_add_right _ _) hmeets.inTime
    have hvain : occurred instant = false := by
      simpa using hmeets.inVain 0 k.succ_pos
    rw [metFrom, if_neg (Nat.not_lt.mpr hinTime), hvain, if_neg Bool.false_ne_true, ih hmeets.next,
      Nat.succ_mul]
    congr 1
    omega

/-- The loop ends without the event if no poll before the deadline finds it occurred. -/
theorem metFrom_of_never
    (hnever : ∀ k, instant + k * p.period ≤ p.deadline → occurred (instant + k * p.period) = false) :
    p.metFrom occurred instant = none := by
  fun_induction p.metFrom occurred instant with
  | case1 instant hlate => rfl
  | case2 instant hlate hmet =>
    have hvain := hnever 0 (by omega)
    rw [Nat.zero_mul, Nat.add_zero, hmet] at hvain
    cases hvain
  | case3 instant hlate hmet ih =>
    refine ih fun k hk => ?_
    have hlater : instant + p.period + k * p.period = instant + (k + 1) * p.period := by
      rw [Nat.succ_mul]
      omega
    rw [hlater] at hk ⊢
    exact hnever (k + 1) hk

theorem exists_meetsAfter (hmet : ∃ k, k * p.period ≤ p.deadline ∧ occurred (k * p.period) = true) :
    ∃ k, p.MeetsAfter occurred 0 k := by
  classical
  obtain ⟨hinTime, hfound⟩ := Nat.find_spec hmet
  refine ⟨Nat.find hmet, ?_, ?_, fun j hj => ?_⟩
  · rwa [Nat.zero_add]
  · rwa [Nat.zero_add]
  · have hvain := Nat.find_min hmet hj
    have hearlier : j * p.period ≤ p.deadline :=
      Nat.le_trans (Nat.mul_le_mul_right _ (Nat.le_of_lt hj)) hinTime
    rw [Nat.zero_add]
    simpa [hearlier] using hvain

theorem outcome_of_meetsAfter (hmeets : p.MeetsAfter occurred 0 k) :
    p.outcome occurred = (.ok (), k * p.period) := by
  rw [outcome, metFrom_of_meetsAfter hmeets, Nat.zero_add]

theorem outcome_of_never
    (hnever : ∀ k, k * p.period ≤ p.deadline → occurred (k * p.period) = false) :
    p.outcome occurred = (.error (.awaitTimeout p.kind p.timeout), p.deadline) := by
  rw [outcome, metFrom_of_never]
  simpa using hnever

/-- A wait succeeds just if some poll before the deadline, or at it, finds the event occurred. -/
theorem outcome_eq_ok : (p.outcome occurred).1 = .ok () ↔
    ∃ k, k * p.period ≤ p.deadline ∧ occurred (k * p.period) = true := by
  by_cases hmet : ∃ k, k * p.period ≤ p.deadline ∧ occurred (k * p.period) = true
  · obtain ⟨k, hmeets⟩ := exists_meetsAfter hmet
    rw [outcome_of_meetsAfter hmeets]
    exact iff_of_true rfl hmet
  · have hnever : ∀ k, k * p.period ≤ p.deadline → occurred (k * p.period) = false := by
      simpa using hmet
    rw [outcome_of_never hnever]
    exact iff_of_false nofun hmet

/-- An event that has occurred at the start ends the wait there, even if there is no time at all. -/
theorem outcome_of_occurred (hoccurred : occurred 0 = true) : p.outcome occurred = (.ok (), 0) := by
  have hmeets : p.MeetsAfter occurred 0 0 := by
    refine ⟨?_, ?_, fun j hj => absurd hj j.not_lt_zero⟩
    · rw [Nat.zero_mul]
      exact Nat.zero_le _
    · rwa [Nat.zero_mul]
  rw [outcome_of_meetsAfter hmeets, Nat.zero_mul]

end Polling

/-- A poll of which the instant is not before `t`, as all polls before it are. -/
theorem exists_pollAt {period : Nat} (hperiod : 0 < period) (t : Nat) :
    ∃ k, pollAt period t = k * period ∧ t ≤ k * period ∧ ∀ j < k, j * period < t := by
  refine ⟨(t + period - 1) / period, rfl, ?_, fun j hj => ?_⟩
  · have hrest := Nat.div_add_mod (t + period - 1) period
    have hsmall := Nat.mod_lt (t + period - 1) hperiod
    rw [Nat.mul_comm] at hrest
    omega
  · have hbelow := (Nat.le_div_iff_mul_le hperiod).mp hj
    rw [Nat.succ_mul] at hbelow
    omega

namespace Wait

/-- The result of a wait and the instant at which it ends. -/
def outcome (w : Wait) : Except Error Unit × Nat := (w.result, w.endsAt)

/-- Holds of a wait that knows since when an event has occurred. -/
def Reflects (w : Wait) (occurred : Nat → Bool) : Prop :=
  ∀ t, occurred t = true ↔ ∃ first ∈ w.since?, first ≤ t

variable {w : Wait} {occurred : Nat → Bool}

theorem outcome_of_met {instant : Nat} (hmet : w.metAt? = some instant) :
    w.outcome = (.ok (), instant) := by
  rw [outcome, result, endsAt, hmet]
  rfl

theorem outcome_of_unmet (hunmet : w.metAt? = none) :
    w.outcome = (.error (.awaitTimeout w.kind w.timeout), w.deadline) := by
  rw [outcome, result, endsAt, hunmet]
  rfl

/-- A wait that knows since when the event has occurred ends as the polling loop does, which looks for
it at every poll. -/
theorem outcome_of_reflects (hreflects : w.Reflects occurred) :
    w.outcome = w.toPolling.outcome occurred := by
  cases hsince : w.since? with
  | none =>
    have hunmet : w.metAt? = none := by
      rw [metAt?, hsince]
      rfl
    have hnever (t : Nat) : occurred t = false := by
      rw [← Bool.not_eq_true, hreflects, hsince]
      simp
    rw [outcome_of_unmet hunmet, Polling.outcome_of_never fun k _ => hnever _]
  | some first =>
    have hknown (t : Nat) : occurred t = true ↔ first ≤ t := by
      rw [hreflects, hsince]
      simp
    obtain ⟨k, hpoll, hreached, hbefore⟩ := exists_pollAt w.period_pos first
    have hmetAt : w.metAt? = (some (k * w.period)).filter (· ≤ w.deadline) := by
      rw [metAt?, hsince, Option.map_some, hpoll]
    by_cases hinTime : k * w.period ≤ w.deadline
    · have hmeets : w.toPolling.MeetsAfter occurred 0 k := by
        refine ⟨?_, ?_, fun j hj => ?_⟩
        · rwa [Nat.zero_add]
        · rwa [Nat.zero_add, hknown]
        · rw [Nat.zero_add, ← Bool.not_eq_true, hknown]
          exact Nat.not_le.mpr (hbefore j hj)
      have hmet : w.metAt? = some (k * w.period) := by
        rw [hmetAt, Option.filter_some, if_pos (decide_eq_true hinTime)]
      rw [Polling.outcome_of_meetsAfter hmeets, outcome_of_met hmet]
    · -- The first poll that could find the event comes too late, so that all others come too early.
      have hnever : ∀ j, j * w.period ≤ w.deadline → occurred (j * w.period) = false := by
        intro j hj
        rw [← Bool.not_eq_true, hknown]
        refine Nat.not_le.mpr (hbefore j ?_)
        by_contra hnot
        exact hinTime (Nat.le_trans (Nat.mul_le_mul_right _ (Nat.not_lt.mp hnot)) hj)
      rw [Polling.outcome_of_never hnever, outcome_of_unmet]
      rw [hmetAt, Option.filter_some, if_neg (by simpa using hinTime)]

theorem toPolling_observe (w : Wait) (t : Nat) (s : Store) : (w.observe t s).toPolling = w.toPolling := by
  rw [observe]
  split <;> rfl

/-- What is seen after a wait has ended does not change how it ended. -/
theorem outcome_observe_late {t : Nat} (hlate : w.endsAt < t) (s : Store) :
    (w.observe t s).outcome = w.outcome := by
  rw [observe]
  split
  · next hseen =>
    have hsince : w.since? = none := by
      rw [Bool.and_eq_true, Option.isNone_iff_eq_none] at hseen
      exact hseen.1
    have hunmet : w.metAt? = none := by
      rw [metAt?, hsince]
      rfl
    have hended : w.deadline < t := by
      rwa [endsAt, hunmet] at hlate
    obtain ⟨k, hpoll, hreached, -⟩ := exists_pollAt w.period_pos t
    have hstillUnmet : ({ w with since? := some t } : Wait).metAt? = none := by
      rw [metAt?, Option.map_some, hpoll, Option.filter_some]
      exact if_neg (by simpa using Nat.lt_of_lt_of_le hended hreached)
    rw [outcome_of_unmet hstillUnmet, outcome_of_unmet hunmet]
  · rfl

end Wait
end UptimeSync
