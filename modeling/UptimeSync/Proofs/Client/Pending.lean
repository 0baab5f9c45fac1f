import UptimeSync.Proofs.Client.Closed

namespace UptimeSync

/-- Holds of events that the server pushes in the order of their instants. -/
def Push.InOrder (pushes : List Push) : Prop :=
  pushes.Pairwise (·.instant ≤ ·.instant)

namespace Session

variable {s : Session} {P : Session → Prop}

/-- What is done to a session by carrying out a program is done by its waits, its requests and its
writes. -/
theorem keeps_run {α : Type}
    (hawait : ∀ kind s, P s → P ((host.await kind).run s).2)
    (hemit : ∀ action args s, P s → P ((host.emit action args).run s).2)
    (haccess : ∀ op s, P s → P ((host.access op).run s).2)
    (p : Program α) (hs : P s) : P ((p.run host).run s).2 := by
  induction p generalizing s with
  | done result => exact hs
  | await kind next ih => exact ih _ (hawait kind s hs)
  | emit action args next ih => exact ih _ (hemit action args s hs)
  | access op next ih => exact ih _ (haccess op s hs)

theorem inOrder_runSubscriber (subscriber : Subscriber) (args : List Json) (s : Session)
    (hs : Push.InOrder s.pending) : Push.InOrder ((runSubscriber subscriber args).run s).2.pending := by
  cases subscriber <;> exact hs

theorem inOrder_schedule (pushes : List Push) (s : Session) :
    Push.InOrder ((schedule pushes).run s).2.pending := by
  let earlier (p q : Push) : Bool := decide (p.instant ≤ q.instant)
  have htrans (p q r : Push) (hpq : earlier p q = true) (hqr : earlier q r = true) : earlier p r = true := by
    simp only [earlier, decide_eq_true_eq] at *
    omega
  have htotal (p q : Push) : (earlier p q || earlier q p) = true := by
    simp only [earlier, Bool.or_eq_true, decide_eq_true_eq]
    omega
  have hsorted := List.pairwise_mergeSort htrans htotal
    (s.pending ++ pushes.map fun p => { p with instant := s.clock + p.instant })
  exact hsorted.imp fun h => of_decide_eq_true h

/-- What waiting leaves pending is the end of what was pending before. -/
theorem inOrder_awaitAll (events : List (EventKind × Duration)) (s : Session)
    (hs : Push.InOrder s.pending) : Push.InOrder ((awaitAll events).run s).2.pending := by
  obtain ⟨due, rest, clock, hpending, hpassed⟩ :=
    passTime_eq s.clock s.pending (events.map fun event => s.wait event.1 event.2) s
  have hwaited : (awaitAll events).run s = _ := hpassed
  rw [hwaited]
  rw [hpending, Push.InOrder, List.pairwise_append] at hs
  exact hs.2.1

theorem inOrder_emit (action : String) (timeout : Duration) (args : List Json) (s : Session)
    (hs : Push.InOrder s.pending) : Push.InOrder ((emit action timeout args).run s).2.pending := by
  change Push.InOrder (emit action timeout args s).2.pending
  rw [emit]
  split <;> exact hs

/-- The pending events of a client stay in order, whatever is done with it. -/
theorem inOrder_on (use : ClientUse) (s : Session) (hs : Push.InOrder s.pending) :
    Push.InOrder (use.on s).pending := by
  cases use with
  | handle use => exact hs
  | client step =>
    cases step with
    | push event args => exact keeps_receive inOrder_runSubscriber hs event args
    | schedule pushes => exact inOrder_schedule pushes s
    | wait events => exact inOrder_awaitAll events s hs
    | emit action timeout args => exact inOrder_emit action timeout args s hs
    | act a =>
      exact keeps_run (P := fun s => Push.InOrder s.pending)
        (fun kind s => inOrder_awaitAll [(kind, s.config.timeouts.await)] s)
        (fun action args s => inOrder_emit action s.config.timeouts.emit args s)
        (fun _ _ hs => hs) a.program hs
    | acknowledge | listen | close => exact hs

theorem inOrder_through (uses : List ClientUse) (s : Session) (hs : Push.InOrder s.pending) :
    Push.InOrder (s.through uses).pending := by
  induction uses generalizing s with
  | nil => exact hs
  | cons use rest ih => exact ih (use.on s) (inOrder_on use s hs)

end Session
end UptimeSync
