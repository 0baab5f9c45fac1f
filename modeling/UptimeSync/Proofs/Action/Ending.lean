import UptimeSync.Proofs.Action.Exchange

namespace UptimeSync.Action

open Course

/-- The steps after which an action is granted: what it gives back and what it changes are known then,
and nothing but the store is left. -/
inductive Granted (a : Action) : List Step → Answer → List Change → Prop where
  /-- The server has acknowledged the request. -/
  | acknowledged {raw : Json} {answer : Answer} {changes : List Change} (hverdict : a.verdict = .ok ())
      (hattended : a.isUnattended = false) (hjudge : a.judge raw = .ok (answer, changes)) :
      Granted a [.awaited .connect (.ok ()), .emitted a.name a.args (.ok raw)] answer changes
  /-- The server has logged the session in by itself. -/
  | announced (hunattended : a.isUnattended = true) :
      Granted a [.awaited .connect (.ok ()), .awaited .autoLogin (.ok ())] (.token none)
        [.loggedIn true]

/-- All the ways in which an action can end on a store: what it gives, the store that it leaves, and
the steps that it took. -/
inductive Ending (a : Action) (s : Store) : Except Error Answer → Store → List Step → Prop where
  /-- The validator has refused what was to be sent. -/
  | rejected {e : Error} (hverdict : a.verdict = .error e) : Ending a s (.error e) s []
  | unconnected {e : Error} (hverdict : a.verdict = .ok ()) :
      Ending a s (.error (.awaitFailed .connect e)) s [.awaited .connect (.error e)]
  | unsent {e : Error} (hverdict : a.verdict = .ok ()) (hattended : a.isUnattended = false) :
      Ending a s (.error (.emitFailed a.name e)) s
        [.awaited .connect (.ok ()), .emitted a.name a.args (.error e)]
  /-- The acknowledgement cannot be read, lacks a field, or is a refusal. -/
  | refused {raw : Json} {e : Error} (hverdict : a.verdict = .ok ())
      (hattended : a.isUnattended = false) (hjudge : a.judge raw = .error e) :
      Ending a s (.error e) s [.awaited .connect (.ok ()), .emitted a.name a.args (.ok raw)]
  | unannounced {e : Error} (hunattended : a.isUnattended = true) :
      Ending a s (.error (.awaitFailed .autoLogin e)) s
        [.awaited .connect (.ok ()), .awaited .autoLogin (.error e)]
  | made {steps : List Step} {answer : Answer} {changes : List Change} {c : Store.Contents}
      (hgranted : a.Granted steps answer changes) (hopen : s = ⟨some c⟩) :
      Ending a s (.ok answer) ⟨some (Change.applyAll changes c)⟩
        (steps ++ .replicate changes.length .accessed)
  /-- The store is closed, and there is nothing to change. -/
  | idle {steps : List Step} {answer : Answer} (hgranted : a.Granted steps answer [])
      (hclosed : s = ⟨none⟩) : Ending a s (.ok answer) s steps
  /-- The store is closed, and the first change has failed. -/
  | lost {steps : List Step} {answer : Answer} {changes : List Change}
      (hgranted : a.Granted steps answer changes) (hchanges : changes ≠ []) (hclosed : s = ⟨none⟩) :
      Ending a s (.error .storeClosed) s (steps ++ [.accessed])

variable {σ : Type} {a : Action} {s : Store}

theorem Ending.store_of_error {e : Error} {left : Store} {steps : List Step}
    (hending : a.Ending s (.error e) left steps) : left = s := by
  cases hending <;> rfl

/-- Holds of the course of an action on a store that ends in one of these ways. -/
def Ends (a : Action) (s : Store) (run : Except Error Answer × Course σ) : Prop :=
  a.Ending s run.1 run.2.store run.2.steps

/-- The store decides how a granted action ends. -/
theorem Granted.ends {steps : List Step} {answer : Answer} {changes : List Change}
    (hgranted : a.Granted steps answer changes) (e : Emitter σ) (s : Store) (x : σ) :
    a.Ends s ((Change.commit changes answer).carriedOut e ⟨s, x, steps⟩) := by
  obtain ⟨contents?⟩ := s
  cases contents? with
  | some c =>
    rw [Change.carriedOut_commit_open]
    exact .made hgranted rfl
  | none =>
    rw [Change.carriedOut_commit_closed]
    cases changes with
    | nil => exact .idle hgranted rfl
    | cons change rest => exact .lost hgranted nofun rfl

theorem program_of_unattended (hunattended : a.isUnattended = true) :
    a.program = (do
      Program.awaitEvent .connect
      Program.awaitEvent .autoLogin
      Change.commit [.loggedIn true] (.token none)) := by
  cases a with
  | login username password token =>
    have hcredentials : username.isEmpty ∧ password.isEmpty := by
      simpa [isUnattended] using hunattended
    simp only [program, Program.login, if_pos hcredentials, map_eq_pure_bind, bind_assoc, pure_bind]
    rfl
  | _ => cases hunattended

theorem verdict_of_unattended (hunattended : a.isUnattended = true) : a.verdict = .ok () := by
  cases a with
  | login => rfl
  | _ => cases hunattended

variable {e : Emitter σ} {x : σ} {err : Error}

/-- An action that the validator refuses ends before its first step. -/
theorem program_of_rejected (hverdict : a.verdict = .error err) : a.program = .done (.error err) := by
  have hattended : a.isUnattended = false := by
    rw [Bool.eq_false_iff]
    intro hunattended
    rw [verdict_of_unattended hunattended] at hverdict
    cases hverdict
  rw [program_eq_exchange a hattended, exchange, hverdict]
  rfl

theorem carriedOut_rejected (hverdict : a.verdict = .error err) (e : Emitter σ) (s : Store) (x : σ) :
    a.program.carriedOut e ⟨s, x, []⟩ = (.error err, ⟨s, x, []⟩) := by
  rw [program_of_rejected hverdict]
  rfl

/-- An action with which all is well waits for the connection before anything else. -/
theorem carriedOut_unconnected (hverdict : a.verdict = .ok ())
    (hconnect : (e.await .connect s x).1 = .error err) :
    a.program.carriedOut e ⟨s, x, []⟩ =
      (.error (.awaitFailed .connect err),
        ⟨s, (e.await .connect s x).2, [.awaited .connect (.error err)]⟩) := by
  cases hattended : a.isUnattended with
  | true =>
    rw [program_of_unattended hattended, Program.carriedOut_awaitEvent, hconnect]
    rfl
  | false =>
    rw [program_eq_exchange a hattended, exchange, hverdict, Program.done_ok_bind, Program.carriedOut_send,
      Program.carriedOut_awaitEvent, hconnect]
    rfl

/-- What is left of a login without credentials once the connection stands. -/
theorem carriedOut_unattended (hunattended : a.isUnattended = true)
    (hconnect : (e.await .connect s x).1 = .ok ()) :
    let announced := e.await .autoLogin s (e.await .connect s x).2
    a.program.carriedOut e ⟨s, x, []⟩ =
      (Program.done (announced.1.mapError (.awaitFailed .autoLogin)) >>= fun _ =>
        Change.commit [.loggedIn true] (.token none)).carriedOut e
          ⟨s, announced.2, [.awaited .connect (.ok ()), .awaited .autoLogin announced.1]⟩ := by
  rw [program_of_unattended hunattended, Program.carriedOut_awaitEvent, hconnect,
    Program.done_mapError_ok_bind, Program.carriedOut_awaitEvent]
  rfl

/-- What is left of any other action once the connection stands: the request is sent, its acknowledgement is
judged, and the changes are made. -/
theorem carriedOut_connected (hverdict : a.verdict = .ok ()) (hattended : a.isUnattended = false)
    (hconnect : (e.await .connect s x).1 = .ok ()) :
    let reply := e.emit a.name a.args s (e.await .connect s x).2
    a.program.carriedOut e ⟨s, x, []⟩ =
      (Program.done (reply.1.mapError (.emitFailed a.name)) >>= fun raw =>
        Program.done (a.judge raw) >>= fun outcome => Change.commit outcome.2 outcome.1).carriedOut e
          ⟨s, reply.2, [.awaited .connect (.ok ()), .emitted a.name a.args reply.1]⟩ := by
  rw [program_eq_exchange a hattended, exchange, hverdict, Program.done_ok_bind, Program.carriedOut_send,
    Program.carriedOut_awaitEvent, hconnect, Program.done_mapError_ok_bind, Program.carriedOut_emit]
  rfl

theorem ends_of_unattended (hunattended : a.isUnattended = true)
    (hconnect : (e.await .connect s x).1 = .ok ()) :
    a.Ends s (a.program.carriedOut e ⟨s, x, []⟩) := by
  rw [carriedOut_unattended hunattended hconnect]
  cases (e.await .autoLogin s (e.await .connect s x).2).1 with
  | error err => exact .unannounced hunattended
  | ok => exact (Granted.announced hunattended).ends e s _

theorem ends_of_attended (hverdict : a.verdict = .ok ()) (hattended : a.isUnattended = false)
    (hconnect : (e.await .connect s x).1 = .ok ()) :
    a.Ends s (a.program.carriedOut e ⟨s, x, []⟩) := by
  rw [carriedOut_connected hverdict hattended hconnect]
  cases (e.emit a.name a.args s (e.await .connect s x).2).1 with
  | error err => exact .unsent hverdict hattended
  | ok raw =>
    rw [Program.done_mapError_ok_bind]
    cases hjudge : a.judge raw with
    | error err => exact .refused hverdict hattended hjudge
    | ok outcome => exact (Granted.acknowledged hverdict hattended hjudge).ends e s _

/-- However the emitter behaves, an action ends in one of these ways. -/
theorem ends (a : Action) (e : Emitter σ) (s : Store) (x : σ) :
    a.Ends s (a.program.carriedOut e ⟨s, x, []⟩) := by
  cases hverdict : a.verdict with
  | error err =>
    rw [carriedOut_rejected hverdict]
    exact .rejected hverdict
  | ok =>
    cases hconnect : (e.await .connect s x).1 with
    | error err =>
      rw [carriedOut_unconnected hverdict hconnect]
      exact .unconnected hverdict
    | ok =>
      cases hattended : a.isUnattended with
      | true => exact ends_of_unattended hattended hconnect
      | false => exact ends_of_attended hverdict hattended hconnect

variable {action : String} {args : List Json} {reply : Except Error Json} {steps : List Step}

theorem Granted.emitted {answer : Answer} {changes : List Change} (hgranted : a.Granted steps answer changes)
    (hmem : .emitted action args reply ∈ steps) : action = a.name ∧ args = a.args := by
  cases hgranted with
  | acknowledged =>
    obtain ⟨haction, hargs, -⟩ : action = a.name ∧ args = a.args ∧ _ := by simpa using hmem
    exact ⟨haction, hargs⟩
  | announced => simp at hmem

/-- An action sends nothing but its own request. -/
theorem Ending.emitted {result : Except Error Answer} {after : Store}
    (hending : a.Ending s result after steps) (hmem : .emitted action args reply ∈ steps) :
    action = a.name ∧ args = a.args := by
  cases hending with
  | rejected | unconnected | unannounced => simp at hmem
  | unsent | refused =>
    obtain ⟨haction, hargs, -⟩ : action = a.name ∧ args = a.args ∧ _ := by simpa using hmem
    exact ⟨haction, hargs⟩
  | made hgranted | lost hgranted => exact hgranted.emitted (by simpa using hmem)
  | idle hgranted => exact hgranted.emitted hmem

end UptimeSync.Action
