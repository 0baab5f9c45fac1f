import UptimeSync.Event.Kind
import UptimeSync.Store.Basic

namespace UptimeSync

/-- A course of steps that a client takes with the server and the store. Each step hands its result
to the steps after it, which may depend on it. -/
inductive Program (α : Type) where
  /-- The end, with the result of the whole. -/
  | done (result : Except Error α)
  /-- Waits for an event to have occurred. -/
  | await (kind : EventKind) (next : Except Error Unit → Program α)
  /-- Sends a request and waits for its acknowledgement. -/
  | emit (action : String) (args : List Json) (next : Except Error Json → Program α)
  /-- Writes the store. -/
  | access (op : Access Unit) (next : Except Error Unit → Program α)

namespace Program

/-- One program after another; a program that fails ends the whole. -/
def bind : Program α → (α → Program β) → Program β
  | done (.ok a), f => f a
  | done (.error e), _ => done (.error e)
  | await kind next, f => await kind fun r => (next r).bind f
  | emit action args next, f => emit action args fun r => (next r).bind f
  | access op next, f => access op fun r => (next r).bind f

instance : Monad Program where
  pure a := done (.ok a)
  bind := bind

/-- The program that fails at once. -/
def fail (e : Error) : Program α := done (.error e)

/-- Whoever carries out the steps of a program. -/
structure Host (m : Type → Type) where
  await : EventKind → m (Except Error Unit)
  emit : String → List Json → m (Except Error Json)
  access : Access Unit → m (Except Error Unit)

/-- Carries out a program step by step. -/
def run {m : Type → Type} [Monad m] (host : Host m) : Program α → m (Except Error α)
  | done r => pure r
  | await kind next => host.await kind >>= fun r => (next r).run host
  | emit action args next => host.emit action args >>= fun r => (next r).run host
  | access op next => host.access op >>= fun r => (next r).run host

/-- Waits for an event that a program depends on. -/
def awaitEvent (kind : EventKind) : Program Unit :=
  await kind fun r => done (r.mapError (.awaitFailed kind))

/-- Waits until the connection has been made, then sends a request. -/
def send (action : String) (args : List Json) : Program Json := do
  awaitEvent .connect
  emit action args fun r => done (r.mapError (.emitFailed action))

/-- Writes the store. -/
def perform (op : Access Unit) : Program Unit :=
  access op done

/-- Takes it for a success that the store holds nothing to change. The server has confirmed the
change; the store may never have held what it is about. -/
def ignoreUncached : Except Error Unit → Except Error Unit
  | .error (.notFound ..) | .error .notSetYet => .ok ()
  | r => r

/-- Writes to an entry of the store that may not be there. -/
def performIfCached (op : Access Unit) : Program Unit :=
  access op fun r => done (ignoreUncached r)

end Program
end UptimeSync
