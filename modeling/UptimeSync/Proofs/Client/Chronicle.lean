import UptimeSync.Action.Basic
import UptimeSync.Client.Session

namespace UptimeSync

/-- Something that happens to a client. -/
inductive Happening where
  /-- The handler of an event ran. -/
  | handled (kind : EventKind) (args : List Json)
  /-- An action waited for an event. -/
  | awaited (kind : EventKind) (result : Except Error Unit)
  /-- An action sent a request, be it over a closed connection. -/
  | requested (action : String) (args : List Json)

def Subscriber.kind? : Subscriber → Option EventKind
  | handler kind => some kind
  | listener _ => none

namespace Session

def handlersOf (s : Session) (event : String) : List EventKind :=
  (s.registrar.callbacks.forEvent event).filterMap Subscriber.kind?

/-- The session after the server has pushed some events, one after the other. -/
def receiveAll (s : Session) : List Push → Session
  | [] => s
  | p :: rest => receiveAll ((receive p.event p.args).run s).2 rest

/-- The handlers that run while the server pushes some events, one after the other. -/
def handling (s : Session) : List Push → List Happening
  | [] => []
  | p :: rest =>
    (s.handlersOf p.event).map (.handled · p.args) ++ handling ((receive p.event p.args).run s).2 rest

/-- Some waits after the server has pushed some events, each of which is looked at when it arrives. -/
def observeAll (start : Nat) (s : Session) : List Push → List Wait → List Wait
  | [], waits => waits
  | p :: rest, waits =>
    let after := ((receive p.event p.args).run s).2
    observeAll start after rest (waits.map (Wait.observe (p.instant - start) after.store))

/-- The pending events that the server has pushed in between. -/
def delivered (before after : Session) : List Push :=
  before.pending.take (before.pending.length - after.pending.length)

/-- While time passes the server pushes the events that are due, in order, and each of them is seen by
all waits. -/
theorem passTime_eq (start : Nat) (pending : List Push) (waits : List Wait) (s : Session) :
    ∃ (due rest : List Push) (clock : Nat), pending = due ++ rest ∧
      (passTime start pending waits).run s =
        (s.observeAll start due waits, { s.receiveAll due with clock, pending := rest }) := by
  induction pending generalizing waits s with
  | nil => exact ⟨[], [], start + lastEnd waits, rfl, rfl⟩
  | cons p later ih =>
    by_cases hdue : p.instant ≤ start + lastEnd waits
    · let after := ((receive p.event p.args).run s).2
      obtain ⟨due, rest, clock, hpending, hpassed⟩ :=
        ih (waits.map (Wait.observe (p.instant - start) after.store)) after
      refine ⟨p :: due, rest, clock, congrArg (p :: ·) hpending, ?_⟩
      rw [passTime, if_pos hdue]
      exact hpassed
    · refine ⟨[], p :: later, start + lastEnd waits, rfl, ?_⟩
      rw [passTime, if_neg hdue]
      rfl

/-- Waiting delivers a part of the pending events from the front. -/
theorem awaitAll_eq (events : List (EventKind × Duration)) (s : Session) :
    ∃ (due rest : List Push) (clock : Nat),
      (awaitAll events).run s =
        (s.observeAll s.clock due (events.map fun event => s.wait event.1 event.2),
          { s.receiveAll due with clock, pending := rest }) ∧
      s.delivered ((awaitAll events).run s).2 = due := by
  obtain ⟨due, rest, clock, hpending, hpassed⟩ :=
    passTime_eq s.clock s.pending (events.map fun event => s.wait event.1 event.2) s
  have hwaited : (awaitAll events).run s = _ := hpassed
  refine ⟨due, rest, clock, hwaited, ?_⟩
  rw [hwaited, delivered, hpending, List.length_append, Nat.add_sub_cancel, List.take_left]

theorem store_emit (action : String) (timeout : Duration) (args : List Json) (s : Session) :
    ((emit action timeout args).run s).2.store = s.store := by
  change (emit action timeout args s).2.store = s.store
  rw [emit]
  split <;> rfl

end Session

/-- Something that is done with a client, by its user or by the server. The store is written by nothing
but pushed events and actions. -/
inductive ClientStep where
  | push (event : String) (args : List Json)
  | schedule (pushes : List Push)
  | acknowledge (acknowledgement : Acknowledgement)
  | listen (event : String) (l : Listener)
  | wait (events : List (EventKind × Duration))
  | emit (action : String) (timeout : Duration) (args : List Json)
  | act (a : Action)
  | close

def ClientStep.on (step : ClientStep) (s : Session) : Session :=
  match step with
  | push event args => ((Session.receive event args).run s).2
  | schedule pushes => ((Session.schedule pushes).run s).2
  | acknowledge acknowledgement => { s with acknowledgement }
  | listen event l => ((Session.on event l).run s).2
  | wait events => ((Session.awaitAll events).run s).2
  | emit action timeout args => ((Session.emit action timeout args).run s).2
  | act a => ((a.program.run Session.host).run s).2
  | close => s.close

def Session.after (s : Session) (steps : List ClientStep) : Session :=
  steps.foldl (fun s step => step.on s) s

/-- A session, and what has happened to it in order. -/
structure Chronicle where
  session : Session
  happenings : List Happening := []

namespace Chronicle

/-- Carries out programs as the session does, and notes what happens. -/
def host : Program.Host (StateM Chronicle) where
  await kind := fun c =>
    let waited := (Session.host.await kind).run c.session
    (waited.1, ⟨waited.2, c.happenings ++
      (c.session.handling (c.session.delivered waited.2) ++ [.awaited kind waited.1])⟩)
  emit action args := fun c =>
    let emitted := (Session.host.emit action args).run c.session
    (emitted.1, ⟨emitted.2, c.happenings ++ [.requested action args]⟩)
  access op := fun c =>
    let accessed := (Session.host.access op).run c.session
    (accessed.1, { c with session := accessed.2 })

def next (c : Chronicle) (step : ClientStep) : Chronicle :=
  match step with
  | .act a => ((a.program.run host).run c).2
  | .push event args =>
    ⟨step.on c.session, c.happenings ++ c.session.handling [⟨c.session.clock, event, args⟩]⟩
  | .wait _ =>
    ⟨step.on c.session, c.happenings ++ c.session.handling (c.session.delivered (step.on c.session))⟩
  | _ => { c with session := step.on c.session }

def after (c : Chronicle) (steps : List ClientStep) : Chronicle :=
  steps.foldl next c

/-- Noting what happens changes neither what a program gives nor the session that it leaves. -/
theorem run_host {α : Type} (p : Program α) (c : Chronicle) :
    ((p.run host).run c).1 = ((p.run Session.host).run c.session).1 ∧
      ((p.run host).run c).2.session = ((p.run Session.host).run c.session).2 := by
  induction p generalizing c with
  | done result => exact ⟨rfl, rfl⟩
  | await kind next ih => exact ih _ _
  | emit action args next ih => exact ih _ _
  | access op next ih => exact ih _ _

theorem session_next (c : Chronicle) (step : ClientStep) : (c.next step).session = step.on c.session := by
  cases step with
  | act a => exact (run_host a.program c).2
  | _ => rfl

theorem session_after (c : Chronicle) (steps : List ClientStep) :
    (c.after steps).session = c.session.after steps := by
  induction steps generalizing c with
  | nil => rfl
  | cons step rest ih =>
    change ((c.next step).after rest).session = (step.on c.session).after rest
    rw [ih, session_next]

/-- What has happened once is not undone by a program. -/
theorem happenings_run {α : Type} (p : Program α) (c : Chronicle) :
    ∃ more, ((p.run host).run c).2.happenings = c.happenings ++ more := by
  induction p generalizing c with
  | done result => exact ⟨[], (List.append_nil _).symm⟩
  | await kind next ih =>
    obtain ⟨more, hmore⟩ := ih _ ((host.await kind).run c).2
    exact ⟨_, hmore.trans (List.append_assoc ..)⟩
  | emit action args next ih =>
    obtain ⟨more, hmore⟩ := ih _ ((host.emit action args).run c).2
    exact ⟨_, hmore.trans (List.append_assoc ..)⟩
  | access op next ih => exact ih _ ((host.access op).run c).2

end Chronicle
end UptimeSync
