import UptimeSync.Proofs.Client.Built
import UptimeSync.Proofs.Run.Operation

namespace UptimeSync

/-- Listeners by their events, in the order in which they were added. -/
abbrev Enrolment := List (String × Listener)

namespace Enrolment

def forEvent (enrolment : Enrolment) (event : String) : List Listener :=
  (enrolment.filter fun entry => entry.1 = event).map Prod.snd

theorem forEvent_append (first later : Enrolment) (event : String) :
    forEvent (first ++ later) event = forEvent first event ++ forEvent later event := by
  rw [forEvent, List.filter_append, List.map_append]
  rfl

/-- Adds listeners to callbacks. -/
def addTo (enrolment : Enrolment) (table : Callbacks Subscriber) : Callbacks Subscriber :=
  enrolment.foldl (fun table entry => table.on entry.1 (.listener entry.2)) table

theorem forEvent_addTo (enrolment : Enrolment) (table : Callbacks Subscriber) (event : String) :
    (enrolment.addTo table).forEvent event =
      table.forEvent event ++ (enrolment.forEvent event).map .listener := by
  rw [addTo, Callbacks.forEvent_foldl_on, forEvent, List.map_map]
  rfl

end Enrolment

/-- How listeners behave when they run. What a listener answers, and what it does to the client, may
depend on all that has happened; but it writes no store, and takes no subscriber away. -/
structure Conduct where
  run : Listener → List Json → StateM Session (Except Error Unit)
  adds : Listener → List Json → Session → Enrolment
  store_run : ∀ l args s, ((run l args).run s).2.store = s.store
  callbacks_run : ∀ l args s,
    ((run l args).run s).2.registrar.callbacks = (adds l args s).addTo s.registrar.callbacks

/-- What is done with a client: its user adds a listener, or the server pushes an event. -/
inductive Turn where
  | listen (event : String) (l : Listener)
  | push (event : String) (args : List Json)

/-- What a turn does to the store: an event that has a handler is handled. -/
def Turn.event? : Turn → Option Operation
  | listen .. => none
  | push event args => (EventKind.ofName? event).map (.event · args)

namespace Conduct

variable (conduct : Conduct)

/-- The conduct of the listeners that the client itself runs. -/
def own : Conduct where
  run l := Session.runSubscriber (.listener l)
  adds l _ _ := l.adds
  store_run _ _ _ := rfl
  callbacks_run _ _ _ := rfl

def runSubscriber : Subscriber → List Json → StateM Session (Except Error Unit)
  | .handler kind, args => Session.runSubscriber (.handler kind) args
  | .listener l, args => conduct.run l args

/-- The server pushes an event. -/
def receive (event : String) (args : List Json) : StateM Session (Except Error Unit) := do
  (← get).registrar.callbacks.dispatch conduct.runSubscriber event args

theorem receive_own : own.receive = Session.receive := by
  have hrun : own.runSubscriber = Session.runSubscriber := by
    funext subscriber args
    cases subscriber <;> rfl
  funext event args
  rw [receive, hrun]
  rfl

/-- What some listeners answer that run one after the other. -/
def answers (args : List Json) : List Listener → Session → List (Except Error Unit)
  | [], _ => []
  | l :: rest, s => ((conduct.run l args).run s).1 :: answers args rest ((conduct.run l args).run s).2

/-- The listeners that some listeners add when they run one after the other. -/
def addsAll (args : List Json) : List Listener → Session → Enrolment
  | [], _ => []
  | l :: rest, s => conduct.adds l args s ++ addsAll args rest ((conduct.run l args).run s).2

theorem runAll_listeners (args : List Json) (listeners : List Listener) (s : Session) :
    let run := (Callbacks.runAll (conduct.runSubscriber · args) (listeners.map .listener)).run s
    run.1 = firstFailure (conduct.answers args listeners s) ∧ run.2.store = s.store ∧
      run.2.registrar.callbacks = (conduct.addsAll args listeners s).addTo s.registrar.callbacks := by
  induction listeners generalizing s with
  | nil => exact ⟨rfl, rfl, rfl⟩
  | cons l rest ih =>
    let after := ((conduct.run l args).run s).2
    obtain ⟨hanswer, hstore, hcallbacks⟩ := ih after
    rw [List.map_cons, Callbacks.runAll_cons_run]
    refine ⟨?_, hstore.trans (conduct.store_run l args s), hcallbacks.trans ?_⟩
    · rw [answers, firstFailure_cons, ← hanswer]
      rfl
    · rw [conduct.callbacks_run, addsAll, Enrolment.addTo, Enrolment.addTo, Enrolment.addTo,
        List.foldl_append]

end Conduct

namespace EventKind

/-- Runs the handler of an event, if it has one. -/
def handleNamed (event : String) (args : List Json) : Access Unit :=
  match ofName? event with
  | some kind => kind.handle args
  | none => pure ()

theorem handleNamed_name (kind : EventKind) (args : List Json) : handleNamed kind.name args = kind.handle args := by
  rw [handleNamed, ofName?_name]

theorem handleNamed_of_none {event : String} (hnone : ofName? event = none) (args : List Json) :
    handleNamed event args = pure () := by
  rw [handleNamed, hnone]

end EventKind

/-- Holds of a session in which each event has its handler, once, and behind it the listeners that were
added. -/
def Session.Enrols (s : Session) (enrolment : Enrolment) : Prop :=
  ∀ event, s.registrar.callbacks.forEvent event =
    (EventKind.ofName? event).toList.map .handler ++ (enrolment.forEvent event).map .listener

namespace Session

variable {s : Session} {enrolment : Enrolment}

/-- A session after the handler of an event, if it has one, has run. -/
def afterHandler (s : Session) (event : String) (args : List Json) : Session :=
  { s with store := ((EventKind.handleNamed event args).on s.store).2 }

theorem Enrols.add (henrols : s.Enrols enrolment) {after : Session} {added : Enrolment}
    (hafter : after.registrar.callbacks = added.addTo s.registrar.callbacks) :
    after.Enrols (enrolment ++ added) := by
  intro event
  rw [hafter, Enrolment.forEvent_addTo, henrols event, Enrolment.forEvent_append, List.map_append,
    List.append_assoc]

theorem store_afterHandler (s : Session) (event : String) (args : List Json) :
    (s.afterHandler event args).store = s.store.after (Turn.push event args).event?.toList := by
  rw [afterHandler, EventKind.handleNamed, Turn.event?]
  cases EventKind.ofName? event <;> rfl

/-- An event runs its handler, then the listeners that were added for it, all of them, in their order. -/
theorem Enrols.receive (henrols : s.Enrols enrolment) (conduct : Conduct) (event : String)
    (args : List Json) :
    let received := (conduct.receive event args).run s
    let handled := (EventKind.handleNamed event args).on s.store
    let heard := s.afterHandler event args
    let listeners := enrolment.forEvent event
    received.1 = firstFailure (handled.1 :: conduct.answers args listeners heard) ∧
      received.2.store = handled.2 ∧
      received.2.registrar.callbacks = (conduct.addsAll args listeners heard).addTo s.registrar.callbacks := by
  intro received handled heard listeners
  let rest := (Callbacks.runAll (conduct.runSubscriber · args) (listeners.map .listener)).run heard
  obtain ⟨hanswer, hstore, hcallbacks⟩ := conduct.runAll_listeners args listeners heard
  have hreceived : received = (handled.1 >>= fun _ => rest.1, rest.2) := by
    have hall : received = (Callbacks.runAll (conduct.runSubscriber · args)
        ((EventKind.ofName? event).toList.map .handler ++ listeners.map .listener)).run s := by
      rw [← henrols event]
      rfl
    rw [hall]
    cases hkind : EventKind.ofName? event with
    | none =>
      simp only [rest, heard, handled, afterHandler, EventKind.handleNamed_of_none hkind]
      rfl
    | some kind =>
      obtain rfl := EventKind.ofName?_eq_some.mp hkind
      simp only [rest, heard, handled, afterHandler, EventKind.handleNamed_name]
      exact Callbacks.runAll_cons_run _ _ _ s
  rw [hreceived]
  refine ⟨?_, hstore, hcallbacks⟩
  rw [firstFailure_cons, ← hanswer]

end Session

namespace Conduct

variable (conduct : Conduct) {s : Session} {enrolment : Enrolment}

def next (s : Session) : Turn → Session
  | .listen event l => ((Session.on event l).run s).2
  | .push event args => ((conduct.receive event args).run s).2

def after (s : Session) (turns : List Turn) : Session :=
  turns.foldl conduct.next s

/-- The listeners that are added in a turn of a session with some listeners. -/
def addsIn (s : Session) (enrolment : Enrolment) : Turn → Enrolment
  | .listen event l => if s.registrar.refuses = some event then [] else [(event, l)]
  | .push event args => conduct.addsAll args (enrolment.forEvent event) (s.afterHandler event args)

/-- All listeners of a session after some turns, in the order in which they were added. -/
def enrolled : Session → Enrolment → List Turn → Enrolment
  | _, enrolment, [] => enrolment
  | s, enrolment, turn :: rest =>
    enrolled (conduct.next s turn) (enrolment ++ conduct.addsIn s enrolment turn) rest

/-- A turn adds its listeners behind the others and does no more to the store than the handler does. -/
theorem next_spec (henrols : s.Enrols enrolment) (turn : Turn) :
    (conduct.next s turn).Enrols (enrolment ++ conduct.addsIn s enrolment turn) ∧
      (conduct.next s turn).store = s.store.after turn.event?.toList := by
  cases turn with
  | listen event l =>
    refine ⟨henrols.add ?_, rfl⟩
    change ((Registrar.register event (.listener l)).run s.registrar).2.callbacks = _
    by_cases hrefused : s.registrar.refuses = some event
    · rw [Registrar.register_refused hrefused, addsIn, if_pos hrefused]
      rfl
    · rw [Registrar.register_accepted hrefused, addsIn, if_neg hrefused]
      rfl
  | push event args =>
    obtain ⟨-, hstore, hcallbacks⟩ := henrols.receive conduct event args
    exact ⟨henrols.add hcallbacks, hstore.trans (s.store_afterHandler event args)⟩

theorem after_spec (henrols : s.Enrols enrolment) (turns : List Turn) :
    (conduct.after s turns).Enrols (conduct.enrolled s enrolment turns) ∧
      (conduct.after s turns).store = s.store.after (turns.filterMap Turn.event?) := by
  induction turns generalizing s enrolment with
  | nil => exact ⟨henrols, rfl⟩
  | cons turn rest ih =>
    obtain ⟨hnext, hstore⟩ := conduct.next_spec henrols turn
    obtain ⟨hafter, hlater⟩ := ih hnext
    refine ⟨hafter, hlater.trans ?_⟩
    rw [hstore]
    cases hevent : turn.event? with
    | none => rw [List.filterMap_cons_none hevent]; rfl
    | some operation => rw [List.filterMap_cons_some hevent]; rfl

end Conduct

/-- Pushed events do to the store what their handlers do, one after the other, whatever listeners there
are. An event with a handler runs it once, before the listeners that were added for the event, which all
run; the answer is the first failure among them. Any other event leaves the store as it is. -/
theorem dispatch_refines_handlers {config : Config} {refuses : Option String} {session : Session}
    (hbuilt : ((Session.build config).run { refuses }).1 = .ok session) (conduct : Conduct)
    (turns : List Turn) :
    let s := conduct.after session turns
    let listeners := (conduct.enrolled session [] turns).forEvent
    s.store = (Store.empty config.retention).after (turns.filterMap Turn.event?) ∧
    (∀ (kind : EventKind) (args : List Json),
      let handled := (kind.handle args).on s.store
      let received := (conduct.receive kind.name args).run s
      s.registrar.callbacks.forEvent kind.name = .handler kind :: (listeners kind.name).map .listener ∧
      received.2.store = handled.2 ∧
      received.1 = firstFailure
        (handled.1 :: conduct.answers args (listeners kind.name) { s with store := handled.2 })) ∧
    ∀ (event : String) (args : List Json), (∀ kind : EventKind, kind.name ≠ event) →
      let received := (conduct.receive event args).run s
      s.registrar.callbacks.forEvent event = (listeners event).map .listener ∧
      received.2.store = s.store ∧
      received.1 = firstFailure (conduct.answers args (listeners event) s) := by
  intro s listeners
  have hstart : session.Enrols [] := by
    intro event
    rw [Session.forEvent_of_build hbuilt]
    exact (List.append_nil _).symm
  obtain ⟨henrols, hstore⟩ := conduct.after_spec hstart turns
  rw [Session.store_of_build hbuilt] at hstore
  refine ⟨hstore, ?_, ?_⟩
  · intro kind args handled received
    obtain ⟨hanswer, hafter, -⟩ := henrols.receive conduct kind.name args
    rw [Session.afterHandler, EventKind.handleNamed_name] at hanswer
    rw [EventKind.handleNamed_name] at hafter
    refine ⟨?_, hafter, hanswer⟩
    rw [henrols, EventKind.ofName?_name]
    rfl
  · intro event args hunnamed received
    have hnone : EventKind.ofName? event = none := by
      refine Option.eq_none_iff_forall_ne_some.mpr fun kind hfound => ?_
      exact hunnamed kind (EventKind.ofName?_eq_some.mp hfound)
    obtain ⟨hanswer, hafter, -⟩ := henrols.receive conduct event args
    rw [Session.afterHandler, EventKind.handleNamed_of_none hnone] at hanswer
    rw [EventKind.handleNamed_of_none hnone] at hafter
    refine ⟨?_, hafter, hanswer⟩
    rw [henrols, hnone]
    rfl

/-- A listener that fails is heard, and the connection counts as made all the same. -/
theorem failing_listener_is_heard :
    ∃ session, ((Session.build {}).run {}).1 = .ok session ∧
      let l : Listener := .mk .null [] (some .connectionClosed)
      let s := ((Session.on "connect" l).run session).2
      let received := (Session.receive EventKind.connect.name []).run s
      received.1 = .error .connectionClosed ∧
        received.2.store = ((Store.setConnected true).on (.empty {})).2 := by
  obtain ⟨session, hbuilt, haccepts⟩ : ∃ session, ((Session.build {}).run {}).1 = .ok session ∧
      session.registrar.refuses = none := ⟨_, rfl, rfl⟩
  refine ⟨session, hbuilt, ?_⟩
  intro l s received
  obtain ⟨-, hnamed, -⟩ := dispatch_refines_handlers hbuilt Conduct.own [.listen "connect" l]
  obtain ⟨-, hstore, hanswer⟩ := hnamed .connect []
  rw [Conduct.receive_own] at hstore hanswer
  have hopen : s.store = .empty {} := Session.store_of_build hbuilt
  have hlisteners : Conduct.own.enrolled session [] [.listen "connect" l] = [("connect", l)] := by
    rw [Conduct.enrolled, Conduct.addsIn, haccepts]
    rfl
  constructor
  · refine hanswer.trans ?_
    rw [hlisteners]
    change firstFailure [((Store.setConnected true).on s.store).1, l.answer] = _
    rw [hopen]
    rfl
  · refine hstore.trans ?_
    change ((Store.setConnected true).on s.store).2 = _
    rw [hopen]

end UptimeSync
