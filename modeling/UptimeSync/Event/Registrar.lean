import UptimeSync.Event.Callbacks

namespace UptimeSync

/-- The place where callbacks are registered. It may refuse the callbacks for one event. -/
structure Registrar (c : Type) where
  callbacks : Callbacks c := ∅
  /-- The event of each registration so far, in order. -/
  registered : List String := []
  refuses : Option String := none

/-- Registers a callback. -/
def Registrar.register (event : String) (callback : c) : StateM (Registrar c) (Except Error Unit) :=
  fun r =>
    if r.refuses = some event then (.error (.notRegistered event "refused"), r)
    else
      (.ok (), { r with
        callbacks := r.callbacks.on event callback
        registered := r.registered ++ [event] })

end UptimeSync
