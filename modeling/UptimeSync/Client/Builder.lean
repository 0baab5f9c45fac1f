import UptimeSync.Client.Session

namespace UptimeSync

/-- One setting of a client that is being built. -/
inductive Builder.Call where
  | emitTimeout (d : Duration)
  | awaitTimeout (d : Duration)
  | pollInterval (d : Duration)
  | retention (r : Retention)
  | credentials (c : Credentials)
  /-- Replaces everything that was set before. -/
  | config (c : Config)

namespace Builder

/-- The configuration after one more setting. Durations are kept as whole milliseconds. -/
def Call.apply (c : Config) : Call → Config
  | emitTimeout d => { c with timeouts := { c.timeouts with emitMs := d.clampedMillis } }
  | awaitTimeout d => { c with timeouts := { c.timeouts with awaitMs := d.clampedMillis } }
  | pollInterval d => { c with timeouts := { c.timeouts with pollMs := d.clampedMillis } }
  | retention r => { c with retention := r }
  | credentials c' => { c with credentials := c' }
  | config c' => c'

/-- The configuration after some settings, beginning with the default one. -/
def configOf (calls : List Call) : Config :=
  calls.foldl Call.apply {}

/-- Builds a client over a connection: the configuration is validated, the store is made, and every
handler is registered, up to the first that the connection refuses. -/
def build {m : Type → Type} [Monad m] (on : String → Subscriber → m (Except Error Unit)) (c : Config) :
    m (Except Error Client) := do
  match c.validate with
  | .error e => return .error e
  | .ok () =>
    let client : Client := { config := c, store := .empty c.retention }
    match ← client.handlers.registerAll fun h => on h.kind.name (.handler h.kind) with
    | .error e => return .error e
    | .ok () => return .ok client

end Builder

/-- Builds a client over a registrar, which is left with what was registered. -/
def Session.build (c : Config) : StateM (Registrar Subscriber) (Except Error Session) := do
  match ← Builder.build Registrar.register c with
  | .error e => return .error e
  | .ok client => return .ok { client with registrar := ← get }

end UptimeSync
