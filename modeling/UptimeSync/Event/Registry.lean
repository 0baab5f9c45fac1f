import UptimeSync.Event.Handler

namespace UptimeSync

/-- The handler of a kind of event, with the store that it writes. -/
structure Handler (σ : Type) where
  kind : EventKind
  store : σ

/-- Runs an operation on one of several stores, told apart by their positions. Where there is no
store it is as if there were a closed one. -/
def Access.onOne (index : Nat) (op : Access α) : StateM (List Store) (Except Error α) :=
  fun stores =>
    match stores[index]? with
    | some s => ((op.on s).1, stores.set index (op.on s).2)
    | none => (.error .storeClosed, stores)

/-- What is run when an event arrives. It is given the arguments of the event and has all stores at
hand. -/
abbrev EventCallback := List Json → StateM (List Store) (Except Error Unit)

/-- The callback by which a handler takes events into its own store. -/
def Handler.callback (h : Handler Nat) : EventCallback :=
  fun args => (h.kind.handle args).onOne h.store

/-- A kind of event that has no handler. -/
structure Unhandled where
  kind : EventKind
deriving DecidableEq

/-- The text of a missing handler. -/
def Unhandled.message (u : Unhandled) : String :=
  s!"no handler registered for event {u.kind.name}"

/-- At most one handler for each kind of event, given by the store that it writes. -/
structure Registry (σ : Type) where
  store? : EventKind → Option σ

namespace Registry

variable {σ : Type}

/-- A handler for every kind, all of them writing one store. -/
def full (store : σ) : Registry σ := ⟨fun _ => some store⟩

/-- Adds a handler in place of the one for its kind. -/
def insert (r : Registry σ) (handler : Handler σ) : Registry σ :=
  ⟨fun kind => if kind = handler.kind then some handler.store else r.store? kind⟩

/-- The registry of a list of handlers; a later one replaces an earlier one for its kind. -/
def ofList (handlers : List (Handler σ)) : Registry σ :=
  handlers.foldl insert ⟨fun _ => none⟩

/-- The handler for a kind, if there is one. -/
def get? (r : Registry σ) (kind : EventKind) : Option (Handler σ) :=
  (r.store? kind).map fun store => ⟨kind, store⟩

/-- The handler for a kind. Its absence is an error in the wiring of a program. -/
def get (r : Registry σ) (kind : EventKind) : Except Unhandled (Handler σ) :=
  match r.get? kind with
  | some handler => .ok handler
  | none => .error ⟨kind⟩

/-- The handlers, in the order of their kinds. -/
def handlers (r : Registry σ) : List (Handler σ) :=
  EventKind.all.filterMap r.get?

def size (r : Registry σ) : Nat := r.handlers.length

def isEmpty (r : Registry σ) : Bool := r.handlers.isEmpty

end Registry

/-- Registers handlers in their order, up to and including the first that is refused. -/
def Handler.registerEach {m : Type → Type} [Monad m] {σ : Type}
    (register : Handler σ → m (Except Error Unit)) : List (Handler σ) → m (Except Error Unit)
  | [] => pure (.ok ())
  | handler :: rest => do
    match ← register handler with
    | .ok () => registerEach register rest
    | .error e => return .error e

/-- Registers every handler of a registry, in the order of their kinds. -/
def Registry.registerAll {m : Type → Type} [Monad m] {σ : Type} (r : Registry σ)
    (register : Handler σ → m (Except Error Unit)) : m (Except Error Unit) :=
  Handler.registerEach register r.handlers

end UptimeSync
