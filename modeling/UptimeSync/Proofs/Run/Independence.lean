import Mathlib.Logic.Function.Conjugate
import UptimeSync.Proofs.Run.Closed
import UptimeSync.Proofs.Run.Occurrence

namespace UptimeSync

/-- A part of a store that events bring up to date. -/
inductive Place where
  | connected
  | autoLogin
  | info
  | monitors
  /-- The heartbeats of one monitor on a shelf. -/
  | buffer (shelf : Shelf) (monitorId : Int64)
  /-- The mark that an event leaves. -/
  | mark (name : String)
deriving DecidableEq

namespace SeenEvents

/-- It does not matter in which order events were marked. -/
theorem mark_comm (seen : SeenEvents) (first second : String) :
    (seen.mark first).mark second = (seen.mark second).mark first := by
  have hnames : ((seen.mark first).mark second).names = ((seen.mark second).mark first).names := by
    refine Std.ExtTreeSet.ext_contains fun name => ?_
    change ((seen.mark first).mark second).has name = ((seen.mark second).mark first).has name
    simp only [has_mark, Bool.or_assoc]
    rw [Bool.or_comm (first == name)]
  exact congrArg SeenEvents.mk hnames

end SeenEvents

namespace Shelf

/-- Changes the heartbeats of one monitor on a shelf, which are none if it has no buffer. -/
def alter (shelf : Shelf) (monitorId : Int64) (f : Retention → Queue Heartbeat → Queue Heartbeat)
    (c : Store.Contents) : Store.Contents :=
  let buffers := (shelf.buffers c).getD ∅
  shelf.put (buffers.insert monitorId (f c.retention (Buffers.queue buffers monitorId))) c

theorem queue_insert_of_ne {first second : Int64} (hne : first ≠ second) (buffers : Buffers)
    (q : Queue Heartbeat) : Buffers.queue (buffers.insert first q) second = Buffers.queue buffers second := by
  rw [Buffers.queue, IdMap.getElem?_insert, if_neg hne, Buffers.queue]

/-- What is done to the heartbeats of one monitor on one shelf does not depend on what is done to those
of another, or on the other shelf. -/
theorem alter_comm {first second : Shelf} {firstId secondId : Int64}
    (hapart : first = second → firstId ≠ secondId) (f g : Retention → Queue Heartbeat → Queue Heartbeat)
    (c : Store.Contents) :
    first.alter firstId f (second.alter secondId g c) = second.alter secondId g (first.alter firstId f c) := by
  have hsame (hid : firstId ≠ secondId) (buffers : Buffers) :
      (buffers.insert secondId (g c.retention (Buffers.queue buffers secondId))).insert firstId
        (f c.retention (Buffers.queue
          (buffers.insert secondId (g c.retention (Buffers.queue buffers secondId))) firstId)) =
      (buffers.insert firstId (f c.retention (Buffers.queue buffers firstId))).insert secondId
        (g c.retention (Buffers.queue
          (buffers.insert firstId (f c.retention (Buffers.queue buffers firstId))) secondId)) := by
    rw [queue_insert_of_ne hid.symm, queue_insert_of_ne hid, IdMap.insert_comm hid.symm]
  cases first with
  | general =>
    cases second with
    | general => exact congrArg (Shelf.general.put · c) (hsame (hapart rfl) _)
    | important => rfl
  | important =>
    cases second with
    | general => rfl
    | important => exact congrArg (Shelf.important.put · c) (hsame (hapart rfl) _)

end Shelf

namespace StoreWrite

variable {first second : StoreWrite}

/-- The place of a write by which an event is taken into the store. Marks are left out, since they do not
stand in the way of any other write. -/
def place? : StoreWrite → Option Place
  | connected _ => some .connected
  | autoLogin _ => some .autoLogin
  | info _ => some .info
  | monitors _ => some .monitors
  | history (.append beat) => some (.buffer (Shelf.ofBeat beat) beat.monitorId)
  | history (.set shelf monitorId _ _) => some (.buffer shelf monitorId)
  | _ => none

/-- A write to the heartbeats of one monitor. -/
theorem exists_alter {write : HeartbeatWrite} {place : Place} (hplace : (history write).place? = some place) :
    ∃ shelf monitorId f, place = .buffer shelf monitorId ∧
      ∀ c, (history write).apply c = shelf.alter monitorId f c := by
  cases write with
  | append beat =>
    cases hplace
    let capacity := (Shelf.ofBeat beat).capacity
    exact ⟨_, _, fun retention q => (q.push beat).trim (capacity retention), rfl, fun _ => rfl⟩
  | set shelf monitorId beats overwrite =>
    cases hplace
    let owned := beats.map fun beat => { beat with monitorId }
    exact ⟨shelf, monitorId, fun retention q => if overwrite then q.replace owned
      else (owned.foldl Queue.push q).trim (shelf.capacity retention), rfl, fun _ => rfl⟩
  | clear monitorId => cases hplace

/-- What is done to the heartbeats does not depend on the other fields, nor they on it. -/
theorem alter_apply (hplain : ∀ write, first ≠ history write) (shelf : Shelf) (monitorId : Int64)
    (f : Retention → Queue Heartbeat → Queue Heartbeat) (c : Store.Contents) :
    first.apply (shelf.alter monitorId f c) = shelf.alter monitorId f (first.apply c) := by
  cases first with
  | history write => exact absurd rfl (hplain write)
  | _ => cases shelf <;> rfl

/-- Writes to different places may be made in either order. -/
theorem apply_commute {place other : Place} (hfirst : first.place? = some place)
    (hsecond : second.place? = some other) (hne : place ≠ other) :
    Function.Commute first.apply second.apply := by
  intro c
  cases first with
  | history write =>
    obtain ⟨shelf, monitorId, f, rfl, halter⟩ := exists_alter hfirst
    cases second with
    | history later =>
      obtain ⟨otherShelf, otherId, g, rfl, hlater⟩ := exists_alter hsecond
      rw [halter, hlater, hlater, halter]
      refine Shelf.alter_comm (fun hshelf hid => hne ?_) f g c
      rw [hshelf, hid]
    | _ =>
      rw [halter, halter]
      exact (alter_apply (fun _ hsame => by cases hsame) shelf monitorId f c).symm
  | _ =>
    cases second with
    | history later =>
      obtain ⟨shelf, monitorId, g, rfl, hlater⟩ := exists_alter hsecond
      rw [hlater, hlater]
      exact alter_apply (fun _ hsame => by cases hsame) shelf monitorId g c
    -- Each of the others sets a field of its own.
    | _ => cases hfirst <;> cases hsecond <;> first | rfl | exact absurd rfl hne

/-- A mark may be made before or after any other write. -/
theorem mark_commute (name : String) (write : StoreWrite) :
    Function.Commute (mark name).apply write.apply := by
  intro c
  cases write with
  | mark other => exact congrArg (fun seen => { c with seen }) (c.seen.mark_comm other name)
  | history write =>
    cases hplace : (history write).place? with
    | none =>
      cases write with
      | clear => rfl
      | _ => cases hplace
    | some place =>
      obtain ⟨shelf, monitorId, f, -, halter⟩ := exists_alter hplace
      rw [halter, halter]
      exact alter_apply (fun _ hsame => by cases hsame) shelf monitorId f c
  | _ => rfl

theorem applyAll_commute {earlier later : List StoreWrite}
    (hcommute : ∀ write ∈ earlier, ∀ other ∈ later, Function.Commute write.apply other.apply) :
    Function.Commute (applyAll earlier) (applyAll later) := by
  have hsingle (write : StoreWrite) (hwrite : write ∈ earlier) :
      Function.Commute write.apply (applyAll later) := by
    have hothers := hcommute write hwrite
    clear hcommute
    induction later with
    | nil => exact fun _ => rfl
    | cons other rest ih =>
      rw [List.forall_mem_cons] at hothers
      exact (ih hothers.2).comp_right hothers.1
  clear hcommute
  induction earlier with
  | nil => exact fun _ => rfl
  | cons write rest ih =>
    rw [List.forall_mem_cons] at hsingle
    exact (ih hsingle.2).comp_left hsingle.1

end StoreWrite

namespace EventKind

/-- The place that an event brings up to date. A batch of heartbeats belongs to the monitor it is sent for, a
single one to the monitor it names; there is no telling whose they are if they cannot be read. -/
def target? (kind : EventKind) (args : List Json) : Option Place :=
  match kind with
  | connect | disconnect => some .connected
  | message | error => some (.mark kind.name)
  | info => some .info
  | heartbeat =>
    (kind.payload (Wire.readValue Heartbeat.ofJson ∘ Json.object) args).toOption.map fun beat =>
      .buffer (Shelf.ofBeat beat) beat.monitorId
  | heartbeatList =>
    (kind.heartbeatBatch args).toOption.map fun (monitorId, _) => .buffer .general monitorId
  | importantHeartbeatList =>
    (kind.heartbeatBatch args).toOption.map fun (monitorId, _) => .buffer .important monitorId
  | autoLogin => some .autoLogin
  | monitorList => some .monitors

/-- Apart from the marks that it leaves, an event writes to nothing but its target. -/
theorem place?_of_mem_writes {kind : EventKind} {args : List Json} {writes : List StoreWrite}
    (hwrites : kind.writes args = .ok writes) {write : StoreWrite} (hmem : write ∈ writes) :
    (∃ name, write = .mark name) ∨ ∃ place, kind.target? args = some place ∧ write.place? = some place := by
  cases kind with
  | connect | disconnect | message | error | autoLogin =>
    cases hwrites
    simp only [List.mem_cons, List.not_mem_nil, or_false] at hmem
    rcases hmem with rfl | rfl <;> simp [target?, StoreWrite.place?]
  | info | heartbeat | heartbeatList | importantHeartbeatList | monitorList =>
    obtain ⟨payload, hpayload, hwritten⟩ := Except.bind_eq_ok.mp hwrites
    cases hwritten
    simp only [List.mem_cons, List.not_mem_nil, or_false] at hmem
    rcases hmem with rfl | rfl <;> simp [target?, hpayload, StoreWrite.place?, Except.toOption]

variable {first second : EventKind} {args others : List Json}

theorem writes_commute
    (hapart : ∀ place, first.target? args = some place → second.target? others ≠ some place)
    {earlier later : List StoreWrite} (hearlier : first.writes args = .ok earlier)
    (hlater : second.writes others = .ok later) :
    Function.Commute (StoreWrite.applyAll earlier) (StoreWrite.applyAll later) := by
  refine StoreWrite.applyAll_commute fun write hwrite other hother => ?_
  obtain ⟨name, rfl⟩ | ⟨place, htarget, hplace⟩ := place?_of_mem_writes hearlier hwrite
  · exact StoreWrite.mark_commute name other
  · obtain ⟨name, rfl⟩ | ⟨otherPlace, hotherTarget, hotherPlace⟩ := place?_of_mem_writes hlater hother
    · exact (StoreWrite.mark_commute name write).symm
    · refine StoreWrite.apply_commute hplace hotherPlace fun hsame => hapart place htarget ?_
      rw [hotherTarget, hsame]

/-- Two events with different targets do not interfere: in whichever order they are handled, each gives the
result that it gives on its own, and they leave the same store. An event that cannot be read has a target only
if its kind has one. -/
theorem handle_commute
    (hapart : ∀ place, first.target? args = some place → second.target? others ≠ some place) (s : Store) :
    let ahead := (first.handle args).on s
    let behind := (second.handle others).on s
    ∃ last, (second.handle others).on ahead.2 = (behind.1, last) ∧
      (first.handle args).on behind.2 = (ahead.1, last) := by
  intro ahead behind
  obtain ⟨contents?⟩ := s
  cases contents? with
  | none =>
    obtain ⟨firstResult, hfirst, -⟩ := first.handle_detached args
    obtain ⟨secondResult, hsecond, -⟩ := second.handle_detached others
    have hahead : ahead = (firstResult, .detached) := hfirst
    have hbehind : behind = (secondResult, .detached) := hsecond
    exact ⟨.detached, by rw [hahead, hbehind, hsecond], by rw [hahead, hbehind, hfirst]⟩
  | some c =>
    have hahead : ahead = _ := first.handle_open args c
    have hbehind : behind = _ := second.handle_open others c
    rw [hahead, hbehind]
    cases hearlier : first.writes args with
    | error e => cases hlater : second.writes others <;> simp [handle_open, hearlier, hlater]
    | ok earlier =>
      cases hlater : second.writes others with
      | error e => simp [handle_open, hearlier, hlater]
      | ok later =>
        have hcommute := writes_commute hapart hearlier hlater c
        simp [handle_open, hearlier, hlater, hcommute]

/-- Of two live heartbeats of one monitor, an important one and an ordinary one do not interfere. -/
theorem handle_commute_important :
    let beat (important : Bool) :=
      [Json.ofMembers [("monitorId", .ofInt64 7), ("important", .bool important)]]
    let s := Store.empty {}
    let ahead := (heartbeat.handle (beat true)).on s
    let behind := (heartbeat.handle (beat false)).on s
    (∀ place, heartbeat.target? (beat true) = some place → heartbeat.target? (beat false) ≠ some place) ∧
    ∃ last, (heartbeat.handle (beat false)).on ahead.2 = (behind.1, last) ∧
      (heartbeat.handle (beat true)).on behind.2 = (ahead.1, last) := by
  intro beat s
  have hapart (place : Place) (hplace : heartbeat.target? (beat true) = some place) :
      heartbeat.target? (beat false) ≠ some place := by
    have himportant : heartbeat.target? (beat true) = some (.buffer .important 7) := by decide
    have hordinary : heartbeat.target? (beat false) = some (.buffer .general 7) := by decide
    rw [← hplace, himportant, hordinary]
    decide
  exact ⟨hapart, handle_commute hapart s⟩

end EventKind
end UptimeSync
