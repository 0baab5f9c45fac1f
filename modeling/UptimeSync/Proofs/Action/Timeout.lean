import UptimeSync.Client.Session
import UptimeSync.Proofs.Action.Ending
import UptimeSync.Proofs.Action.Trace
import UptimeSync.Proofs.Results

namespace UptimeSync

namespace Error

/-- A failed step that an error tells of, besides what it failed with. -/
inductive Layer where
  | emit (action : String)
  | await (event : EventKind)

def Layer.wrap : Layer → Error → Error
  | emit action, cause => emitFailed action cause
  | await event, cause => awaitFailed event cause

/-- The layers of an error, the outermost first. -/
def layers : Error → List Layer
  | emitFailed action cause => .emit action :: cause.layers
  | awaitFailed event cause => .await event :: cause.layers
  | _ => []

/-- What is left of an error when its layers are taken off. -/
def bare : Error → Error
  | emitFailed _ cause | awaitFailed _ cause => cause.bare
  | e => e

/-- Holds of the errors of a deadline that expired, without any layer. -/
def IsDeadline (e : Error) : Prop :=
  (∃ event after, e = awaitTimeout event after) ∨ ∃ event after, e = ackTimeout event after

/-- Holds of the errors that an action has by itself: of what it was given, of what the server answered, and of
the store. -/
def IsOwn : Error → Prop
  | invalidField .. | unreadableResponse .. | invalidResponse _ | refused .. | loginRefused _ | tokenRequired
  | storeClosed | notSetYet | notFound .. => True
  | _ => False

/-- An error is what is left of it, in its layers. -/
theorem wrap_layers (e : Error) : e.layers.foldr Layer.wrap e.bare = e := by
  induction e with
  | emitFailed action cause ih => exact congrArg (emitFailed action) ih
  | awaitFailed event cause ih => exact congrArg (awaitFailed event) ih
  | _ => rfl

theorem layers_bare (e : Error) : e.bare.layers = [] := by
  induction e with
  | emitFailed action cause ih => exact ih
  | awaitFailed event cause ih => exact ih
  | _ => rfl

theorem isTimeout_iff_bare (e : Error) : e.isTimeout = true ↔ e.bare.IsDeadline := by
  induction e with
  | emitFailed action cause ih => exact ih
  | awaitFailed event cause ih => exact ih
  | awaitTimeout event after => exact ⟨fun _ => .inl ⟨event, after, rfl⟩, fun _ => rfl⟩
  | ackTimeout event after => exact ⟨fun _ => .inr ⟨event, after, rfl⟩, fun _ => rfl⟩
  | _ => simp [isTimeout, bare, IsDeadline]

theorem IsOwn.not_isTimeout {e : Error} (hown : e.IsOwn) : e.isTimeout = false := by
  cases e with
  | awaitTimeout | ackTimeout | emitFailed | awaitFailed => cases hown
  | _ => rfl

end Error

open Course

/-- The error that a program fails with after a step that failed. -/
def Course.Step.failure? : Step → Option Error
  | awaited kind (.error cause) => some (.awaitFailed kind cause)
  | emitted action _ (.error cause) => some (.emitFailed action cause)
  | _ => none

namespace Program

variable {α β : Type}

/-- Holds of steps that a program may take, none of which has failed. -/
def Unfailing (may : Step → Prop) (steps : List Step) : Prop :=
  ∀ step ∈ steps, may step ∧ step.failure? = none

/-- Holds of steps and a result that the steps account for. Only the last step can have failed, and then its
failure is the result. Any other error is the program's own. -/
inductive Accounted (may : Step → Prop) : List Step → Except Error α → Prop where
  | succeeded {steps : List Step} {a : α} (hsteps : Unfailing may steps) : Accounted may steps (.ok a)
  | own {steps : List Step} {e : Error} (hsteps : Unfailing may steps) (hown : e.IsOwn) :
      Accounted may steps (.error e)
  | failed {steps : List Step} {last : Step} {e : Error} (hsteps : Unfailing may steps) (hlast : may last)
      (hfailure : last.failure? = some e) : Accounted may (steps ++ [last]) (.error e)

/-- Holds of a program that takes no other steps than it may, and whose result they always account for. -/
def Accountable (may : Step → Prop) (p : Program α) : Prop :=
  ∀ steps result, p.Takes steps result → Accounted may steps result

variable {may : Step → Prop} {first later : List Step} {result : Except Error α}

theorem unfailing_nil : Unfailing may [] := List.forall_mem_nil _

theorem unfailing_singleton {step : Step} (hmay : may step) (hstep : step.failure? = none) :
    Unfailing may [step] :=
  List.forall_mem_singleton.mpr ⟨hmay, hstep⟩

theorem Accounted.unfailing {a : α} (haccounted : Accounted may first (.ok a)) : Unfailing may first := by
  cases haccounted with
  | succeeded hsteps => exact hsteps

theorem Accounted.forall_may (haccounted : Accounted may first result) : ∀ step ∈ first, may step := by
  cases haccounted with
  | succeeded hsteps => exact fun step hstep => (hsteps step hstep).1
  | own hsteps => exact fun step hstep => (hsteps step hstep).1
  | failed hsteps hlast =>
    exact List.forall_mem_append.mpr
      ⟨fun step hstep => (hsteps step hstep).1, List.forall_mem_singleton.mpr hlast⟩

/-- Steps that have not failed do not count. -/
theorem Accounted.prepend (hfirst : Unfailing may first) (haccounted : Accounted may later result) :
    Accounted may (first ++ later) result := by
  have hall {steps : List Step} (hsteps : Unfailing may steps) : Unfailing may (first ++ steps) :=
    List.forall_mem_append.mpr ⟨hfirst, hsteps⟩
  cases haccounted with
  | succeeded hsteps => exact .succeeded (hall hsteps)
  | own hsteps hown => exact .own (hall hsteps) hown
  | failed hsteps hlast hfailure =>
    rw [← List.append_assoc]
    exact .failed (hall hsteps) hlast hfailure

theorem Accountable.bind {p : Program α} {f : α → Program β} (hp : p.Accountable may)
    (hf : ∀ a, (f a).Accountable may) : (p >>= f).Accountable may := by
  intro steps result htakes
  obtain ⟨e, rfl, hfailed⟩ | ⟨a, first, later, rfl, hfirst, hlater⟩ := htakes.of_bind
  · cases hp _ _ hfailed with
    | own hsteps hown => exact .own hsteps hown
    | failed hsteps hlast hfailure => exact .failed hsteps hlast hfailure
  · exact (hf a _ _ hlater).prepend (hp _ _ hfirst).unfailing

theorem accountable_done {x : Except Error α} (hown : ∀ e, x = .error e → e.IsOwn) :
    (done x).Accountable may := by
  intro steps result htakes
  cases htakes
  cases x with
  | ok a => exact .succeeded unfailing_nil
  | error e => exact .own unfailing_nil (hown e rfl)

theorem accountable_awaitEvent {kind : EventKind} (hmay : ∀ answer, may (.awaited kind answer)) :
    (awaitEvent kind).Accountable may := by
  intro steps result htakes
  cases htakes with
  | @await _ _ answer _ _ hnext =>
    cases hnext
    cases answer with
    | ok => exact .succeeded (unfailing_singleton (hmay _) rfl)
    | error cause => exact .failed unfailing_nil (hmay _) rfl

theorem accountable_emit {action : String} {args : List Json}
    (hmay : ∀ answer, may (.emitted action args answer)) :
    (emit action args fun r => done (r.mapError (.emitFailed action))).Accountable may := by
  intro steps result htakes
  cases htakes with
  | @emit _ _ _ answer _ _ hnext =>
    cases hnext
    cases answer with
    | ok => exact .succeeded (unfailing_singleton (hmay _) rfl)
    | error cause => exact .failed unfailing_nil (hmay _) rfl

theorem accountable_send {action : String} {args : List Json}
    (hconnect : ∀ answer, may (.awaited .connect answer))
    (hmay : ∀ answer, may (.emitted action args answer)) : (send action args).Accountable may :=
  (accountable_awaitEvent hconnect).bind fun _ => accountable_emit hmay

end Program

/-- A session carries out its accesses on its own store. -/
theorem Session.host_hasStore : Session.host.HasStore :=
  fun _ s => ⟨s.store, rfl⟩

theorem Emitter.host_hasStore {σ : Type} (e : Emitter σ) : e.host.HasStore :=
  fun _ c => ⟨c.store, rfl⟩

variable {may : Step → Prop}

theorem Change.accountable_program (haccess : may .accessed) (change : Change) :
    change.program.Accountable may := by
  intro steps result htakes
  cases htakes with
  | @access _ _ s _ _ hnext =>
    cases hnext
    have hsteps : Program.Unfailing may [.accessed] := Program.unfailing_singleton haccess rfl
    obtain ⟨contents?⟩ := s
    cases contents? with
    | some c =>
      rw [(change.access_open c).2]
      exact .succeeded hsteps
    | none =>
      rw [change.access_closed.2]
      exact .own hsteps trivial

theorem Change.accountable_commit {α : Type} (haccess : may .accessed) (changes : List Change) (a : α) :
    (commit changes a).Accountable may := by
  induction changes with
  | nil => exact Program.accountable_done nofun
  | cons change rest ih => exact (accountable_program haccess change).bind fun _ => ih

namespace Action

variable {a : Action} {e : Error}

theorem isOwn_of_verdict (hverdict : a.verdict = .error e) : e.IsOwn := by
  cases a with
  | addTag | editTag =>
    rw [verdict, Tag.validate] at hverdict
    split at hverdict <;> cases hverdict
    trivial
  | addMonitor | editMonitor =>
    rw [verdict, Monitor.validate] at hverdict
    split at hverdict <;> cases hverdict
    trivial
  | _ => cases hverdict

theorem isOwn_of_decode {α : Type} {action : String} {read : Json → Except Fault α} {raw : Json}
    (hdecode : Reply.decode action read raw = .error e) : e.IsOwn := by
  obtain hpayload | ⟨v, -, hread⟩ := Except.bind_eq_error.mp hdecode
  · unfold Reply.payload at hpayload
    split at hpayload
    · split at hpayload <;> cases hpayload
      trivial
    · cases hpayload
    · cases hpayload
      trivial
  · obtain ⟨fault, -, rfl⟩ := Except.mapError_eq_error.mp hread
    trivial

theorem isOwn_of_approve {reply : Reply} (happrove : a.approve reply = .error e) : e.IsOwn := by
  cases a with
  | login =>
    rw [approve] at happrove
    split at happrove
    · cases happrove
      trivial
    · split at happrove <;> cases happrove
      trivial
  | _ =>
    simp only [approve, Reply.accepted] at happrove
    split at happrove <;> cases happrove
    trivial

theorem isOwn_of_settle {body : Wire.Entries} (hsettle : a.settle body = .error e) : e.IsOwn := by
  have hrequired {α : Type} {field : Option α} {f : α → Answer × List Change}
      (hfield : (field.elim (.error (.invalidResponse a.name)) fun x => .ok (f x)) = Except.error e) :
      e.IsOwn := by
    cases field <;> cases hfield
    trivial
  cases a with
  | prepareTwoFactor | addTag | editTag | addMonitor | getSettings => exact hrequired hsettle
  | _ => cases hsettle

theorem isOwn_of_judge {raw : Json} (hjudge : a.judge raw = .error e) : e.IsOwn := by
  cases a with
  | logout => cases hjudge
  | needSetup =>
    obtain hdecode | ⟨_, _, ⟨⟩⟩ := Except.bind_eq_error.mp hjudge
    exact isOwn_of_decode hdecode
  | _ =>
    obtain happroved | ⟨body, -, hsettle⟩ := Except.bind_eq_error.mp hjudge
    · obtain hreply | ⟨reply, -, happrove⟩ := Except.bind_eq_error.mp happroved
      · exact isOwn_of_decode hreply
      · exact isOwn_of_approve happrove
    · exact isOwn_of_settle hsettle

/-- The steps that an action may take. -/
inductive May (a : Action) : Step → Prop where
  | connect (answer : Except Error Unit) : May a (.awaited .connect answer)
  | autoLogin (answer : Except Error Unit) : May a (.awaited .autoLogin answer)
  | request (answer : Except Error Json) : May a (.emitted a.name a.args answer)
  | accessed : May a .accessed

theorem accountable (a : Action) : a.program.Accountable a.May := by
  cases hattended : a.isUnattended with
  | true =>
    rw [program_of_unattended hattended]
    exact (Program.accountable_awaitEvent .connect).bind fun _ =>
      (Program.accountable_awaitEvent .autoLogin).bind fun _ => Change.accountable_commit .accessed _ _
  | false =>
    rw [program_eq_exchange a hattended]
    exact (Program.accountable_done fun _ => isOwn_of_verdict).bind fun _ =>
      (Program.accountable_send .connect .request).bind fun _ =>
        (Program.accountable_done fun _ => isOwn_of_judge).bind fun _ =>
          Change.accountable_commit .accessed _ _

/-- An action sends no other request than its own, and that one only if the validator accepts what is in it. -/
theorem request_of_takes {steps : List Step} {result : Except Error Answer} {action : String} {args : List Json}
    {answer : Except Error Json} (htakes : a.program.Takes steps result)
    (hsent : .emitted action args answer ∈ steps) : a.verdict = .ok () ∧ action = a.name ∧ args = a.args := by
  cases (a.accountable steps result htakes).forall_may _ hsent
  refine ⟨?_, rfl, rfl⟩
  cases hverdict : a.verdict with
  | ok => rfl
  | error e =>
    rw [program_of_rejected hverdict] at htakes
    cases htakes
    cases hsent

/-- Holds of the steps of an action if one of its waits, or its request, has failed with an error. -/
def FailedBy (a : Action) (steps : List Step) (cause : Error) : Prop :=
  .awaited .connect (.error cause) ∈ steps ∨ .awaited .autoLogin (.error cause) ∈ steps ∨
    .emitted a.name a.args (.error cause) ∈ steps

/-- Holds of the error that an action makes of the error with which one of its steps has failed. It names the
step. -/
inductive Tells (a : Action) (steps : List Step) (cause : Error) : Error → Prop where
  | unconnected (hstep : .awaited .connect (.error cause) ∈ steps) :
      Tells a steps cause (.awaitFailed .connect cause)
  | unannounced (hstep : .awaited .autoLogin (.error cause) ∈ steps) :
      Tells a steps cause (.awaitFailed .autoLogin cause)
  | unsent (hstep : .emitted a.name a.args (.error cause) ∈ steps) :
      Tells a steps cause (.emitFailed a.name cause)

variable {steps : List Step} {last : Step} {cause : Error}

theorem Tells.isTimeout {err : Error} (htells : a.Tells steps cause err) : err.isTimeout = cause.isTimeout := by
  cases htells <;> rfl

theorem Tells.mono {longer : List Step} {err : Error} (htells : a.Tells steps cause err) (hsub : steps ⊆ longer) :
    a.Tells longer cause err := by
  cases htells with
  | unconnected hstep => exact .unconnected (hsub hstep)
  | unannounced hstep => exact .unannounced (hsub hstep)
  | unsent hstep => exact .unsent (hsub hstep)

theorem not_failedBy_of_unfailing (hsteps : Program.Unfailing a.May steps) (cause : Error) :
    ¬a.FailedBy steps cause := by
  rintro (hmem | hmem | hmem)
  all_goals cases (hsteps _ hmem).2

theorem failedBy_append_iff (hsteps : Program.Unfailing a.May steps) :
    a.FailedBy (steps ++ [last]) cause ↔ a.FailedBy [last] cause := by
  have hnone := not_failedBy_of_unfailing hsteps cause
  simp only [FailedBy, not_or, List.mem_append] at hnone ⊢
  simp only [hnone, false_or]

/-- A step that failed tells what it failed with. -/
theorem May.failed (hlast : a.May last) (hfailure : last.failure? = some e) :
    ∃ cause, (∀ other, a.FailedBy [last] other ↔ other = cause) ∧ a.Tells [last] cause e := by
  cases hlast with
  | connect answer =>
    cases answer <;> cases hfailure
    exact ⟨_, fun other => by simp [FailedBy], .unconnected (.head _)⟩
  | autoLogin answer =>
    cases answer <;> cases hfailure
    exact ⟨_, fun other => by simp [FailedBy], .unannounced (.head _)⟩
  | request answer =>
    cases answer <;> cases hfailure
    exact ⟨_, fun other => by simp [FailedBy], .unsent (.head _)⟩
  | accessed => cases hfailure

/-- An action fails with an error of its own, unless a step has failed; then it tells the error of that step. -/
theorem error_of_accounted {err : Error}
    (haccounted : Program.Accounted a.May steps (.error err : Except Error Answer)) :
    (err.IsOwn ∧ ∀ cause, ¬a.FailedBy steps cause) ∨
      ∃ cause, (∀ other, a.FailedBy steps other ↔ other = cause) ∧ a.Tells steps cause err := by
  cases haccounted with
  | own hsteps hown => exact .inl ⟨hown, not_failedBy_of_unfailing hsteps⟩
  | failed hsteps hlast hfailure =>
    obtain ⟨cause, honly, htells⟩ := hlast.failed hfailure
    exact .inr ⟨cause, fun other => (failedBy_append_iff hsteps).trans (honly other),
      htells.mono (List.subset_append_right _ _)⟩

/-- An action fails with a timeout just if a step has failed with one. -/
theorem timeout_iff_of_accounted {result : Except Error Answer}
    (haccounted : Program.Accounted a.May steps result) :
    (∃ err, result = .error err ∧ err.isTimeout = true) ↔
      ∃ cause, a.FailedBy steps cause ∧ cause.isTimeout = true := by
  cases result with
  | ok answer =>
    have hnone := not_failedBy_of_unfailing haccounted.unfailing
    simp [hnone]
  | error err =>
    obtain ⟨hown, hnone⟩ | ⟨cause, honly, htells⟩ := error_of_accounted haccounted
    · simp [hnone, hown.not_isTimeout]
    · simp [honly, htells.isTimeout]

/-- An error is a timeout just if an expired deadline is left of it when its layers are taken off. An action
fails with a timeout just if one of the steps it depends on has failed with one, and its own errors are none,
whatever the host does. -/
theorem timeout_of_step :
    (∀ err : Error, err.layers.foldr Error.Layer.wrap err.bare = err ∧ err.bare.layers = [] ∧
      (err.isTimeout = true ↔ err.bare.IsDeadline) ∧ (err.IsOwn → err.isTimeout = false)) ∧
    ∀ (a : Action) {τ : Type} (host : Program.Host (StateM τ)) (t : τ), host.HasStore →
      let result := ((a.program.run host).run t).1
      let steps := a.program.steps host t
      ((∃ err, result = .error err ∧ err.isTimeout = true) ↔
        ∃ cause, a.FailedBy steps cause ∧ cause.isTimeout = true) ∧
      ∀ err, result = .error err →
        (err.IsOwn ∧ ∀ cause, ¬a.FailedBy steps cause) ∨ ∃ cause, a.Tells steps cause err := by
  refine ⟨fun err => ⟨err.wrap_layers, err.layers_bare, err.isTimeout_iff_bare, Error.IsOwn.not_isTimeout⟩,
    fun a τ host t hstore => ?_⟩
  intro result steps
  have haccounted : Program.Accounted a.May steps result := a.accountable _ _ (Program.takes_run hstore _ t)
  refine ⟨timeout_iff_of_accounted haccounted, fun err hfailed => ?_⟩
  rw [hfailed] at haccounted
  exact (error_of_accounted haccounted).imp_right fun ⟨cause, _, htells⟩ => ⟨cause, htells⟩

/-- A logout is given up if the connection does not come about in time, and also if its acknowledgement fails
with a timeout that is in a layer already. -/
theorem logout_timeout :
    let unconnected : Session := { config := {}, store := .detached, registrar := {} }
    let late := Error.emitFailed "logout" (.ackTimeout "logout" (.ofMillis 5000))
    let slow : Emitter Unit := ⟨fun _ _ x => (.ok (), x), fun _ _ _ x => (.error late, x)⟩
    (∃ err, ((logout.program.run Session.host).run unconnected).1 = .error err ∧ err.isTimeout = true) ∧
      ∃ err, ((logout.program.run slow.host).run ⟨.detached, (), []⟩).1 = .error err ∧ err.isTimeout = true := by
  intro unconnected late slow
  constructor
  · exact (timeout_of_step.2 logout Session.host unconnected Session.host_hasStore).1.mpr
      ⟨.awaitTimeout .connect (.ofMillis 5000), .inl (.head _), rfl⟩
  · exact (timeout_of_step.2 logout slow.host ⟨.detached, (), []⟩ slow.host_hasStore).1.mpr
      ⟨late, .inr (.inr (.tail _ (.head _))), rfl⟩

end Action
end UptimeSync
