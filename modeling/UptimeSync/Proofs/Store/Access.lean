import UptimeSync.Store.Basic

namespace UptimeSync

variable {α β : Type}

namespace Access

/-- An operation that does nothing to the store when it fails. -/
def Atomic (op : Access α) : Prop :=
  ∀ (s s' : Store) (e : Error), op.on s = (.error e, s') → s' = s

/-- A step that does not touch the store goes before an operation. If it fails, the operation does
not take place. -/
theorem on_lift_bind (x : Except Error α) (op : α → Access β) (s : Store) :
    on (liftM x >>= op) s =
      match x with
      | .ok a => (op a).on s
      | .error e => (.error e, s) := by
  cases x <;> rfl

theorem on_write_open (f : Store.Contents → Store.Contents) (c : Store.Contents) :
    (Store.write f).on ⟨some c⟩ = (.ok (), ⟨some (f c)⟩) := rfl

theorem on_update_closed (f : Store.Contents → Except Error Store.Contents) :
    (Store.update f).on ⟨none⟩ = (.error .storeClosed, ⟨none⟩) := rfl

/-- Updating an open store replaces its contents, or leaves them as they are if the update fails. -/
theorem on_update_open (f : Store.Contents → Except Error Store.Contents) (c : Store.Contents) :
    (Store.update f).on ⟨some c⟩ =
      match f c with
      | .ok after => (.ok (), ⟨some after⟩)
      | .error e => (.error e, ⟨some c⟩) := by
  change Store.update f ⟨some c⟩ = _
  cases h : f c <;> simp [Store.update, Store.contents, Except.bind, h]

/-- An update replaces the contents as a whole at its end, so that a failure comes before any
change. -/
theorem Atomic.update (f : Store.Contents → Except Error Store.Contents) :
    Atomic (Store.update f) := by
  intro s s' e h
  obtain ⟨contents?⟩ := s
  cases contents? with
  | none =>
    rw [on_update_closed] at h
    exact (Prod.mk.inj h).2.symm
  | some c =>
    rw [on_update_open] at h
    cases hf : f c with
    | ok after => simp [hf] at h
    | error failure =>
      rw [hf] at h
      exact (Prod.mk.inj h).2.symm

theorem Atomic.write (f : Store.Contents → Store.Contents) : Atomic (Store.write f) :=
  Atomic.update _

theorem Atomic.markSeen (name : String) : Atomic (Store.markSeen name) := by
  intro s s' e h
  cases h

/-- Steps that do not touch the store keep an operation atomic, however many of them come first and
wherever one of them fails. -/
theorem Atomic.lift_bind (x : Except Error α) {op : α → Access β} (hop : ∀ a, Atomic (op a)) :
    Atomic (liftM x >>= op) := by
  intro s s' e h
  rw [on_lift_bind] at h
  cases x with
  | ok a => exact hop a s s' e h
  | error failure => exact (Prod.mk.inj h).2.symm

end Access
end UptimeSync
