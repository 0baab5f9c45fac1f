import UptimeSync.Proofs.Action.Lawful

namespace UptimeSync

/-- What carries the waits and the requests of a program to the server. How each of them ends may
depend on the store and on everything that happened before. The store is not written. -/
structure Emitter (σ : Type) where
  await : EventKind → Store → σ → Except Error Unit × σ
  emit : String → List Json → Store → σ → Except Error Json × σ

namespace Course

/-- A step of a program and how it ended. -/
inductive Step where
  | awaited (kind : EventKind) (result : Except Error Unit)
  | emitted (action : String) (args : List Json) (result : Except Error Json)
  /-- The store was read or written. -/
  | accessed

def Step.isRequest : Step → Bool
  | emitted .. => true
  | awaited .. | accessed => false

end Course

/-- A program that is being carried out: the store, the state of the emitter, and the steps so far. -/
structure Course (σ : Type) where
  store : Store
  state : σ
  steps : List Course.Step := []

variable {σ α β : Type}

def Emitter.host (e : Emitter σ) : Program.Host (StateM (Course σ)) where
  await kind := fun c =>
    let answer := e.await kind c.store c.state
    (answer.1, { c with state := answer.2, steps := c.steps ++ [.awaited kind answer.1] })
  emit action args := fun c =>
    let answer := e.emit action args c.store c.state
    (answer.1, { c with state := answer.2, steps := c.steps ++ [.emitted action args answer.1] })
  access op := fun c =>
    let answer := op.on c.store
    (answer.1, { c with store := answer.2, steps := c.steps ++ [.accessed] })

/-- An emitter over which everything awaited has occurred and every request is acknowledged in the same
way. -/
def Emitter.acknowledging (raw : Json) : Emitter Unit where
  await _ _ x := (.ok (), x)
  emit _ _ _ x := (.ok raw, x)

namespace Program

/-- What a program gives when it is carried out, and the course that it leaves. -/
def carriedOut (p : Program α) (e : Emitter σ) (c : Course σ) : Except Error α × Course σ :=
  StateT.run (m := Id) (p.run e.host) c

theorem carriedOut_emit (action : String) (args : List Json) (next : Except Error Json → Program α)
    (e : Emitter σ) (c : Course σ) :
    (emit action args next).carriedOut e c =
      (next (e.emit action args c.store c.state).1).carriedOut e
        { c with
          state := (e.emit action args c.store c.state).2
          steps := c.steps ++ [.emitted action args (e.emit action args c.store c.state).1] } := rfl

theorem carriedOut_access (op : Access Unit) (next : Except Error Unit → Program α) (e : Emitter σ)
    (c : Course σ) :
    (access op next).carriedOut e c =
      (next (op.on c.store).1).carriedOut e
        { c with store := (op.on c.store).2, steps := c.steps ++ [.accessed] } := rfl

theorem carriedOut_awaitEvent (kind : EventKind) (f : Unit → Program α) (e : Emitter σ) (s : Store)
    (x : σ) (steps : List Course.Step) :
    (awaitEvent kind >>= f).carriedOut e ⟨s, x, steps⟩ =
      (done ((e.await kind s x).1.mapError (.awaitFailed kind)) >>= f).carriedOut e
        ⟨s, (e.await kind s x).2, steps ++ [.awaited kind (e.await kind s x).1]⟩ := rfl

theorem carriedOut_send (action : String) (args : List Json) (f : Json → Program α) (e : Emitter σ)
    (s : Store) (x : σ) (steps : List Course.Step) :
    (send action args >>= f).carriedOut e ⟨s, x, steps⟩ =
      (awaitEvent .connect >>= fun _ => emit action args fun r =>
        done (r.mapError (.emitFailed action)) >>= f).carriedOut e ⟨s, x, steps⟩ := by
  rw [send, bind_assoc]
  rfl

end Program
end UptimeSync
