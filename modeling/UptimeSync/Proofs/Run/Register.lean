import UptimeSync.Proofs.Run.MonitorTable
import UptimeSync.Store.Registers

namespace UptimeSync

/-- A field of the contents of a store that a write either replaces or leaves alone. -/
structure Register (α : Type) where
  read : Store.Contents → Received α
  written? : StoreWrite → Option α
  read_apply : ∀ (write : StoreWrite) (c : Store.Contents),
    read (write.apply c) = (written? write).elim (read c) .value

namespace Register

variable {α : Type}

theorem isSet_apply (register : Register α) (write : StoreWrite) (c : Store.Contents) :
    (register.read (write.apply c)).isSet =
      ((register.read c).isSet || (register.written? write).isSome) := by
  rw [register.read_apply]
  cases register.written? write with
  | none => exact (Bool.or_false _).symm
  | some a => exact (Bool.or_true _).symm

theorem read_history (read : Store.Contents → Received α)
    (hbeside : ∀ c heartbeats importantHeartbeats,
      read { c with heartbeats, importantHeartbeats } = read c)
    (write : HeartbeatWrite) (c : Store.Contents) : read (write.apply c) = read c := by
  rw [write.apply_frame]
  exact hbeside ..

def connected : Register Bool where
  read c := c.connected
  written?
    | .connected b => some b
    | _ => none
  read_apply write c := by
    cases write with
    | history write => exact read_history Store.Contents.connected (fun _ _ _ => rfl) write c
    | _ => rfl

def autoLogin : Register Bool where
  read c := c.autoLogin
  written?
    | .autoLogin b => some b
    | _ => none
  read_apply write c := by
    cases write with
    | history write => exact read_history Store.Contents.autoLogin (fun _ _ _ => rfl) write c
    | _ => rfl

def info : Register Info where
  read c := c.info
  written?
    | .info i => some i
    | _ => none
  read_apply write c := by
    cases write with
    | history write => exact read_history Store.Contents.info (fun _ _ _ => rfl) write c
    | _ => rfl

def settings : Register Settings where
  read c := c.settings
  written?
    | .settings x => some x
    | _ => none
  read_apply write c := by
    cases write with
    | history write => exact read_history Store.Contents.settings (fun _ _ _ => rfl) write c
    | _ => rfl

/-- Whether the session is logged in is known from the start. -/
def loggedIn : Register Bool where
  read c := .value c.loggedIn
  written?
    | .loggedIn b => some b
    | _ => none
  read_apply write c := by
    cases write with
    | history write => exact read_history (fun c => .value c.loggedIn) (fun _ _ _ => rfl) write c
    | _ => rfl

end Register

end UptimeSync
