import UptimeSync.Proofs.Client.Pending
import UptimeSync.Proofs.Client.Polling

namespace UptimeSync

/-- Holds of timers that reach as far ahead as the next poll and a deadline. -/
def Timers.Reach (timers : Timers) (pollMs : UInt64) (timeout : Duration) : Prop :=
  max 1 pollMs.toNat ≤ timers.furthest ∧ timeout.seconds < timers.limit

namespace Session

variable {s : Session} {start : Nat} {w : Wait}

/-- Whether an event has occurred by an instant of a wait, in milliseconds from its start, if the server
pushes these events. -/
def occurredBy (start : Nat) (pushes : List Push) (s : Session) (kind : EventKind) (t : Nat) : Bool :=
  kind.occurred (s.receiveAll (pushes.takeWhile fun p => p.instant ≤ start + t)).store

/-- Whether an event has occurred by an instant of a wait that begins now. -/
def history (s : Session) : EventKind → Nat → Bool :=
  s.occurredBy s.clock s.pending

/-- No subscriber makes an event not have occurred. -/
theorem occurred_runSubscriber (kind : EventKind) (subscriber : Subscriber) (args : List Json) (s : Session)
    (hs : kind.occurred s.store = true) :
    kind.occurred ((runSubscriber subscriber args).run s).2.store = true := by
  cases subscriber with
  | listener l => exact hs
  | handler received =>
    change kind.occurred ((received.handle args).on s.store).2 = true
    cases hcontents : s.store.contents? with
    | none =>
      have hclosed : s.store = .detached := congrArg Store.mk hcontents
      rw [hclosed, Store.unoccurred_detached] at hs
      cases hs
    | some c =>
      have hopen : s.store = ⟨some c⟩ := congrArg Store.mk hcontents
      rw [hopen] at hs ⊢
      exact ((Operation.event received args).occurred_on c kind).mpr (.inl hs)

theorem occurred_receiveAll {kind : EventKind} (hs : kind.occurred s.store = true) (pushes : List Push) :
    kind.occurred (s.receiveAll pushes).store = true :=
  keeps_receiveAll (occurred_runSubscriber kind) hs pushes

/-- A wait after the server has pushed some events, each of which is looked at when it arrives. -/
def observed (start : Nat) (s : Session) : List Push → Wait → Wait
  | [], w => w
  | p :: rest, w =>
    let after := ((receive p.event p.args).run s).2
    observed start after rest (w.observe (p.instant - start) after.store)

theorem toPolling_observed (start : Nat) (s : Session) (pushes : List Push) (w : Wait) :
    (s.observed start pushes w).toPolling = w.toPolling := by
  induction pushes generalizing s w with
  | nil => rfl
  | cons p rest ih => rw [observed, ih, Wait.toPolling_observe]

theorem observe_of_known {first : Nat} (hknown : w.since? = some first) (t : Nat) (store : Store) :
    w.observe t store = w := by
  rw [Wait.observe, hknown]
  rfl

theorem observed_of_known {first : Nat} (hknown : w.since? = some first) (pushes : List Push) :
    s.observed start pushes w = w := by
  induction pushes generalizing s with
  | nil => rfl
  | cons p rest ih => rw [observed, observe_of_known hknown, ih]

theorem occurredBy_cons_of_due {p : Push} {rest : List Push} {kind : EventKind} {t : Nat}
    (hdue : p.instant ≤ start + t) :
    s.occurredBy start (p :: rest) kind t =
      occurredBy start rest ((receive p.event p.args).run s).2 kind t := by
  rw [occurredBy, List.takeWhile_cons_of_pos (p := fun q : Push => decide (q.instant ≤ start + t))
    (decide_eq_true hdue)]
  rfl

/-- Events that are all pushed later do not count yet. -/
theorem occurredBy_of_later {pushes : List Push} {t : Nat} (hlater : ∀ p ∈ pushes, start + t < p.instant)
    (kind : EventKind) : s.occurredBy start pushes kind t = kind.occurred s.store := by
  have hnone : pushes.takeWhile (fun p => p.instant ≤ start + t) = [] := by
    cases pushes with
    | nil => rfl
    | cons p rest =>
      refine List.takeWhile_cons_of_neg ?_
      simpa using hlater p List.mem_cons_self
  rw [occurredBy, hnone]
  rfl

/-- A wait that has seen all events knows since when its own has occurred. -/
theorem reflects_observed {pushes : List Push} (horder : Push.InOrder pushes) (hunknown : w.since? = none)
    (hunoccurred : w.kind.occurred s.store = false) :
    (s.observed start pushes w).Reflects (s.occurredBy start pushes w.kind) := by
  induction pushes generalizing s with
  | nil =>
    intro t
    rw [occurredBy_of_later (by simp), hunoccurred, observed, hunknown]
    simp
  | cons p rest ih =>
    obtain ⟨hfirst, hrest⟩ := List.pairwise_cons.mp horder
    let after := ((receive p.event p.args).run s).2
    have hearly {t : Nat} (ht : ¬ p.instant ≤ start + t) :
        ∀ q ∈ p :: rest, start + t < q.instant := by
      intro q hq
      obtain rfl | hq := List.mem_cons.mp hq
      · exact Nat.not_le.mp ht
      · exact Nat.lt_of_lt_of_le (Nat.not_le.mp ht) (hfirst q hq)
    rw [observed]
    by_cases hoccurred : w.kind.occurred after.store = true
    · have hseen : w.observe (p.instant - start) after.store = { w with since? := some (p.instant - start) } := by
        rw [Wait.observe, hunknown, hoccurred]
        rfl
      rw [hseen, observed_of_known rfl]
      intro t
      by_cases hdue : p.instant ≤ start + t
      · rw [occurredBy_cons_of_due hdue]
        exact iff_of_true (occurred_receiveAll hoccurred _) ⟨_, rfl, by omega⟩
      · rw [occurredBy_of_later (hearly hdue), hunoccurred]
        simp
        omega
    · rw [Bool.not_eq_true] at hoccurred
      have hunseen : w.observe (p.instant - start) after.store = w := by
        rw [Wait.observe, hoccurred, Bool.and_false]
        rfl
      rw [hunseen]
      intro t
      rw [← ih hrest hoccurred t]
      by_cases hdue : p.instant ≤ start + t
      · rw [occurredBy_cons_of_due hdue]
      · rw [occurredBy_of_later (hearly hdue), hunoccurred,
          occurredBy_of_later (fun q hq => hearly hdue q (List.mem_cons_of_mem p hq)), hoccurred]

theorem endsAt_le_lastEnd {waits : List Wait} (hw : w ∈ waits) : w.endsAt ≤ lastEnd waits := by
  have hbound (ends : List Nat) (least : Nat) :
      least ≤ ends.foldl max least ∧ ∀ t ∈ ends, t ≤ ends.foldl max least := by
    induction ends generalizing least with
    | nil => simp
    | cons head rest ih =>
      obtain ⟨hleast, hall⟩ := ih (max least head)
      refine ⟨Nat.le_trans (Nat.le_max_left least head) hleast, fun t ht => ?_⟩
      obtain rfl | ht := List.mem_cons.mp ht
      · exact Nat.le_trans (Nat.le_max_right least t) hleast
      · exact hall t ht
  exact (hbound (waits.map Wait.endsAt) 0).2 _ (List.mem_map_of_mem hw)

/-- What the server pushes after a wait has ended does not change how it ended. -/
theorem outcome_observed_late {pushes : List Push} (hlate : ∀ p ∈ pushes, start + w.endsAt < p.instant) :
    (s.observed start pushes w).outcome = w.outcome := by
  induction pushes generalizing s w with
  | nil => rfl
  | cons p rest ih =>
    have hended : w.endsAt < p.instant - start := by
      have hp := hlate p List.mem_cons_self
      omega
    let after := ((receive p.event p.args).run s).2
    have hsame := Wait.outcome_observe_late hended after.store
    have hends : (w.observe (p.instant - start) after.store).endsAt = w.endsAt := congrArg Prod.snd hsame
    rw [observed, ih, hsame]
    intro q hq
    rw [hends]
    exact hlate q (List.mem_cons_of_mem p hq)

/-- The waits end as if they had seen all pending events, although time stops with the last of them. -/
theorem outcome_passTime {pending : List Push} (horder : Push.InOrder pending) (waits : List Wait) :
    ((passTime start pending waits).run s).1.map Wait.outcome =
      waits.map fun w => (s.observed start pending w).outcome := by
  induction pending generalizing waits s with
  | nil => rfl
  | cons p rest ih =>
    obtain ⟨hfirst, hrest⟩ := List.pairwise_cons.mp horder
    rw [passTime]
    by_cases hdue : p.instant ≤ start + lastEnd waits
    · let after := ((receive p.event p.args).run s).2
      rw [if_pos hdue]
      have hlater := ih (s := after) hrest (waits.map (Wait.observe (p.instant - start) after.store))
      rw [List.map_map] at hlater
      exact hlater
    · rw [if_neg hdue]
      refine List.map_congr_left fun w hw => ?_
      refine (outcome_observed_late fun q hq => ?_).symm
      have hlast : w.endsAt ≤ lastEnd waits := endsAt_le_lastEnd hw
      obtain rfl | hq := List.mem_cons.mp hq
      · omega
      · have hq := hfirst q hq
        omega

/-- Waiting takes until the last wait has ended. -/
theorem clock_passTime (start : Nat) (pending : List Push) (waits : List Wait) (s : Session) :
    ((passTime start pending waits).run s).2.clock =
      start + lastEnd ((passTime start pending waits).run s).1 := by
  induction pending generalizing waits s with
  | nil => rfl
  | cons p rest ih =>
    rw [passTime]
    by_cases hdue : p.instant ≤ start + lastEnd waits
    · rw [if_pos hdue]
      exact ih _ _
    · rw [if_neg hdue]
      rfl

/-- A wait that begins now and sees all pending events knows since when its own has occurred. -/
theorem reflects_wait (horder : Push.InOrder s.pending) (kind : EventKind) (timeout : Duration) :
    (s.observed s.clock s.pending (s.wait kind timeout)).Reflects (s.history kind) := by
  have hstart : s.wait kind timeout =
      if kind.occurred s.store = true then { s.polling kind timeout with since? := some 0 }
      else { s.polling kind timeout with } := rfl
  cases hoccurred : kind.occurred s.store with
  | false =>
    rw [hstart, hoccurred, if_neg Bool.false_ne_true]
    exact reflects_observed horder rfl hoccurred
  | true =>
    rw [hstart, hoccurred, if_pos rfl, observed_of_known rfl]
    intro t
    exact iff_of_true (occurred_receiveAll hoccurred _) ⟨0, rfl, Nat.zero_le t⟩

/-- An event that has occurred by an instant has occurred by every later one. -/
theorem history_mono (horder : Push.InOrder s.pending) {kind : EventKind} {t later : Nat}
    (hlater : t ≤ later) (hoccurred : s.history kind t = true) : s.history kind later = true := by
  have hreflects := reflects_wait horder kind ⟨0⟩
  obtain ⟨first, hfirst, hreached⟩ := (hreflects t).mp hoccurred
  exact (hreflects later).mpr ⟨first, hfirst, Nat.le_trans hreached hlater⟩

/-- The waits end as the polling loop does on what is going to happen, each of them by itself. -/
theorem outcome_awaitAll (horder : Push.InOrder s.pending) (events : List (EventKind × Duration)) :
    ((awaitAll events).run s).1.map Wait.outcome =
      events.map fun event => (s.polling event.1 event.2).outcome (s.history event.1) := by
  let waits := events.map fun event => s.wait event.1 event.2
  have hpassed : ((awaitAll events).run s).1.map Wait.outcome = waits.map _ :=
    outcome_passTime horder waits
  rw [List.map_map] at hpassed
  refine hpassed.trans (List.map_congr_left fun event _ => ?_)
  rw [Function.comp_apply, Wait.outcome_of_reflects (reflects_wait horder event.1 event.2),
    toPolling_observed, wait, Wait.toPolling_observe]

/-- A wait for one event gives what the polling loop gives, when the loop gives it. -/
theorem await_eq_outcome (horder : Push.InOrder s.pending) (kind : EventKind) (timeout : Duration) :
    let ended := (s.polling kind timeout).outcome (s.history kind)
    ((await kind timeout).run s).1 = ended.1 ∧
      ((await kind timeout).run s).2.clock = s.clock + ended.2 := by
  intro ended
  let waited := (awaitAll [(kind, timeout)]).run s
  have houtcome : waited.1.map Wait.outcome = [ended] := outcome_awaitAll horder [(kind, timeout)]
  obtain ⟨w, hw, hended⟩ := List.map_eq_singleton_iff.mp houtcome
  have hclock : waited.2.clock = s.clock + lastEnd waited.1 := clock_passTime ..
  constructor
  · change (waited.1.head?.map Wait.result).getD (.ok ()) = ended.1
    rw [hw, ← hended]
    rfl
  · change waited.2.clock = s.clock + ended.2
    rw [hclock, hw, ← hended]
    exact congrArg (s.clock + ·) (Nat.zero_max w.endsAt)

/-- To wait for an event takes a handler of it, without which nothing is waited for. -/
theorem awaitHandled_eq (s : Session) (kind : EventKind) (timeout : Duration) :
    (awaitHandled kind timeout).run s =
      match s.handlers.store? kind with
      | none => (.error ⟨kind⟩, s)
      | some _ => (.ok ((await kind timeout).run s).1, ((await kind timeout).run s).2) := by
  rw [awaitHandled, StateT.run_bind, StateT.run_get, pure_bind]
  cases hstore : s.handlers.store? kind with
  | none =>
    have hmissing : s.handlers.get kind = .error ⟨kind⟩ := by
      rw [Registry.get, Registry.get?, hstore]
      rfl
    rw [hmissing]
    rfl
  | some store =>
    have hhandler : s.handlers.get kind = .ok ⟨kind, store⟩ := by
      rw [Registry.get, Registry.get?, hstore]
      rfl
    rw [hhandler]
    rfl

/-- A client waits for an event by looking at every poll whether it has occurred, from the start of the
wait on and up to its deadline, whatever was done with the client before.

* Each of several waits ends as if it were the only one.
* To wait for an event without a handler is an error in the wiring; to wait for another one takes until
  the wait ends.
* The wait succeeds just if a poll up to the deadline finds the event occurred, at the first such poll,
  which is at the start if the event has occurred by then. Otherwise it fails at the deadline with the
  event and the timeout.
* An event that has occurred stays so for the rest of the wait.
* Where the timers reach, polls are a polling interval apart, which is at least a millisecond, and the
  deadline is the timeout. -/
theorem awaits_decided_at_polls (fresh : Session) (uses : List ClientUse) :
    let s := ({ fresh with pending := [] } : Session).through uses
    (∀ events : List (EventKind × Duration),
      ((awaitAll events).run s).1.map Wait.outcome =
        events.map fun event => (s.polling event.1 event.2).outcome (s.history event.1)) ∧
    (∀ (kind : EventKind) (timeout : Duration),
      let awaited := (awaitHandled kind timeout).run s
      let ended := (s.polling kind timeout).outcome (s.history kind)
      match s.handlers.store? kind with
      | none => awaited = (.error ⟨kind⟩, s)
      | some _ => awaited.1 = .ok ended.1 ∧ awaited.2.clock = s.clock + ended.2) ∧
    (∀ (kind : EventKind) (timeout : Duration) (occurred : Nat → Bool),
      let p := s.polling kind timeout
      let ended := p.outcome occurred
      (ended.1 = .ok () ↔ ∃ k, k * p.period ≤ p.deadline ∧ occurred (k * p.period) = true) ∧
      (∀ k, k * p.period ≤ p.deadline → occurred (k * p.period) = true →
        (∀ j < k, occurred (j * p.period) = false) → ended = (.ok (), k * p.period)) ∧
      (occurred 0 = true → ended = (.ok (), 0)) ∧
      ((∀ k, k * p.period ≤ p.deadline → occurred (k * p.period) = false) →
        ended = (.error (.awaitTimeout kind timeout), p.deadline))) ∧
    (∀ kind : EventKind,
      (kind.occurred s.store = true → s.history kind 0 = true) ∧
      ∀ t later, t ≤ later → s.history kind t = true → s.history kind later = true) ∧
    ∀ (kind : EventKind) (ms : Nat),
      let p := s.polling kind (.ofMillis ms)
      s.timers.Reach s.config.timeouts.pollMs (.ofMillis ms) →
        p.period = max 1 s.config.timeouts.pollMs.toNat ∧ p.deadline = ms := by
  intro s
  have horder : Push.InOrder s.pending := inOrder_through uses _ List.Pairwise.nil
  refine ⟨outcome_awaitAll horder, ?_, ?_, ?_, ?_⟩
  · intro kind timeout awaited ended
    obtain ⟨hresult, hclock⟩ := await_eq_outcome horder kind timeout
    have hawaited : awaited = _ := awaitHandled_eq s kind timeout
    rw [hawaited]
    cases s.handlers.store? kind with
    | none => rfl
    | some store => exact ⟨congrArg Except.ok hresult, hclock⟩
  · intro kind timeout occurred p ended
    refine ⟨Polling.outcome_eq_ok, ?_, Polling.outcome_of_occurred, Polling.outcome_of_never⟩
    intro k hinTime hmet hinVain
    refine Polling.outcome_of_meetsAfter ⟨?_, ?_, fun j hj => ?_⟩
    · rwa [Nat.zero_add]
    · rwa [Nat.zero_add]
    · rw [Nat.zero_add]
      exact hinVain j hj
  · intro kind
    exact ⟨fun hoccurred => occurred_receiveAll hoccurred _, fun t later => history_mono horder⟩
  · rintro kind ms p ⟨hperiod, hdeadline⟩
    constructor
    · exact Nat.min_eq_right hperiod
    · change (if _ then _ else (Duration.ofMillis ms).ceilMillis) = ms
      rw [if_neg (Nat.not_le.mpr hdeadline), Duration.ceilMillis_ofMillis]

end Session
end UptimeSync
