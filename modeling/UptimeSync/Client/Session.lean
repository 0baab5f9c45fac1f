import UptimeSync.Action.Program
import UptimeSync.Client.Wait
import UptimeSync.Config.Rules
import UptimeSync.Event.Listener
import UptimeSync.Event.Registrar
import UptimeSync.Event.Registry

namespace UptimeSync

/-- What a client registers for an event: the handler of the event, or a listener of its user. -/
inductive Subscriber where
  | handler (kind : EventKind)
  | listener (l : Listener)

/-- An event that the server pushes at an instant. -/
structure Push where
  instant : Nat
  event : String
  args : List Json

/-- How the server meets a request. -/
inductive Acknowledgement where
  | value (v : Json)
  | failure (e : Error)
  /-- The server does not answer in time. -/
  | silence

/-- A request that reached the server. -/
structure Request where
  action : String
  timeout : Duration
  args : List Json

/-- A client: its configuration, its store and the handlers by which it is known whether an event has
occurred. -/
structure Client where
  config : Config
  store : Store
  handlers : Registry Unit := .full ()

/-- A client that is connected to a server. Time is counted in milliseconds and passes only while
the client waits. -/
structure Session extends Client where
  registrar : Registrar Subscriber
  timers : Timers := {}
  clock : Nat := 0
  /-- The events that the server is going to push, the earliest first. -/
  pending : List Push := []
  acknowledgement : Acknowledgement := .silence
  /-- Whether the connection has been closed. -/
  closed : Bool := false
  /-- The requests that reached the server, in order. -/
  requests : List Request := []
  /-- The runs of listeners, in order. -/
  calls : List Listener.Call := []

namespace Session

/-- Runs a subscriber with the arguments of an event. -/
def runSubscriber (subscriber : Subscriber) (args : List Json) :
    StateM Session (Except Error Unit) := fun s =>
  match subscriber with
  | .handler kind =>
    let (r, store) := (kind.handle args).on s.store
    (r, { s with store })
  | .listener l =>
    let callbacks := l.adds.foldl (fun table (event, added) => table.on event (.listener added))
      s.registrar.callbacks
    (l.answer, { s with
      calls := s.calls ++ [⟨l.label, args⟩]
      registrar := { s.registrar with callbacks } })

/-- The server pushes an event. -/
def receive (event : String) (args : List Json) : StateM Session (Except Error Unit) := do
  (← get).registrar.callbacks.dispatch runSubscriber event args

/-- Adds a listener for an event. -/
def on (event : String) (l : Listener) : StateM Session (Except Error Unit) := fun s =>
  let (r, registrar) := (Registrar.register event (.listener l)).run s.registrar
  (r, { s with registrar })

/-- Whether an event has occurred at least once. -/
def occurred (s : Session) (kind : EventKind) : Bool := kind.occurred s.store

/-- Runs an operation on the store. -/
def access (op : Access α) : StateM Session (Except Error α) := fun s =>
  let (r, store) := op.on s.store
  (r, { s with store })

/-- Sends a request and waits for its acknowledgement. Over a closed connection it does not reach
the server. -/
def emit (action : String) (timeout : Duration) (args : List Json) :
    StateM Session (Except Error Json) := fun s =>
  if s.closed then (.error .connectionClosed, s)
  else
    let result := match s.acknowledgement with
      | .value v => .ok v
      | .failure e => .error e
      | .silence => .error (.ackTimeout action timeout)
    (result, { s with requests := s.requests ++ [⟨action, timeout, args⟩] })

/-- Schedules events that the server is going to push; the instants count from now. -/
def schedule (pushes : List Push) : StateM Session Unit :=
  modify fun s =>
    let absolute := pushes.map fun p => { p with instant := s.clock + p.instant }
    { s with pending := (s.pending ++ absolute).mergeSort fun p q => p.instant ≤ q.instant }

/-- How an event is waited for. -/
def polling (s : Session) (kind : EventKind) (timeout : Duration) : Polling where
  kind := kind
  timeout := timeout
  period := s.timers.period s.config.timeouts.pollMs
  deadline := s.timers.deadline timeout
  period_pos := s.timers.period_pos _

/-- The wait for an event from now on. -/
def wait (s : Session) (kind : EventKind) (timeout : Duration) : Wait :=
  Wait.observe 0 s.store { s.polling kind timeout with }

/-- The instant at which the last of some waits ends. -/
def lastEnd (waits : List Wait) : Nat :=
  (waits.map Wait.endsAt).foldl max 0

/-- Lets the server push the pending events one after the other until all waits have ended. Those of
the last instant come before the end. The waits began at `start`. -/
def passTime (start : Nat) : List Push → List Wait → StateM Session (List Wait)
  | [], waits => do
    modify fun s => { s with clock := start + lastEnd waits, pending := [] }
    return waits
  | p :: rest, waits => do
    if p.instant ≤ start + lastEnd waits then
      let _ ← receive p.event p.args
      let s ← get
      passTime start rest (waits.map (Wait.observe (p.instant - start) s.store))
    else
      modify fun s => { s with clock := start + lastEnd waits, pending := p :: rest }
      return waits

/-- Waits for several events at once. The waits do not affect each other. -/
def awaitAll (events : List (EventKind × Duration)) : StateM Session (List Wait) := do
  let s ← get
  passTime s.clock s.pending (events.map fun (kind, timeout) => s.wait kind timeout)

/-- Waits for an event. -/
def await (kind : EventKind) (timeout : Duration) : StateM Session (Except Error Unit) := do
  let waits ← awaitAll [(kind, timeout)]
  return (waits.head?.map Wait.result).getD (.ok ())

/-- Waits for an event that has a handler. To wait for another one is an error in the wiring of a
program. -/
def awaitHandled (kind : EventKind) (timeout : Duration) :
    StateM Session (Except Unhandled (Except Error Unit)) := do
  match (← get).handlers.get kind with
  | .error missing => return .error missing
  | .ok handler => return .ok (← await handler.kind timeout)

/-- The session carries out programs with the timeouts of its configuration. -/
def host : Program.Host (StateM Session) where
  await kind := do await kind (← get).config.timeouts.await
  emit action args := do emit action (← get).config.timeouts.emit args
  access := access

/-- Closes the connection and the store. -/
def close (s : Session) : Session :=
  { s with closed := true, store := s.store.close }

end Session
end UptimeSync
