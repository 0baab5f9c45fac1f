import UptimeSync.Proofs.Event.Arguments
import UptimeSync.Proofs.Run.Independence

namespace UptimeSync

/-- Marking an event once more makes no difference. -/
theorem SeenEvents.mark_mark (seen : SeenEvents) (name : String) :
    (seen.mark name).mark name = seen.mark name := by
  have hnames : ((seen.mark name).mark name).names = (seen.mark name).names := by
    refine Std.ExtTreeSet.ext_contains fun other => ?_
    change ((seen.mark name).mark name).has other = (seen.mark name).has other
    simp only [has_mark, Bool.or_assoc, Bool.or_self]
  exact congrArg SeenEvents.mk hnames

/-- The heartbeats that a monitor has after a window of the server's own are those of the window, named after the
monitor. -/
theorem Shelf.read_of_window (shelf : Shelf) (monitorId : Int64) (beats : List Heartbeat) (c : Store.Contents) :
    shelf.read ⟨some ((HeartbeatWrite.set shelf monitorId beats true).apply c)⟩ monitorId =
      .ok (beats.map fun beat => { beat with monitorId }) := by
  let window := HeartbeatWrite.set shelf monitorId beats true
  have hwritten : (window.access.on ⟨some c⟩).2 = ⟨some (window.apply c)⟩ := by
    rw [window.access_eq_write]
    rfl
  have hreaches : window.reaches shelf = true := decide_eq_true rfl
  have hdelivery : window.delivery? shelf monitorId =
      some (.window (beats.map fun beat => { beat with monitorId })) := if_pos ⟨rfl, rfl⟩
  rw [← hwritten]
  exact HeartbeatWrite.read_of_delivery hreaches hdelivery c

namespace StoreWrite

/-- Holds of the writes of events that bring all that there is to a place, so that what was there before does not
matter. -/
def IsSnapshot : StoreWrite → Prop
  | history (.set _ _ _ overwrite) => overwrite = true
  | connected _ | autoLogin _ | info _ | monitors _ | mark _ => True
  | _ => False

theorem apply_apply {write : StoreWrite} (hsnapshot : write.IsSnapshot) (c : Store.Contents) :
    write.apply (write.apply c) = write.apply c := by
  cases write with
  | connected | autoLogin | info | monitors => rfl
  | mark name => exact congrArg (fun seen => { c with seen }) (c.seen.mark_mark name)
  | history write =>
    cases write with
    | append | clear => cases hsnapshot
    | set shelf monitorId beats overwrite =>
      cases hsnapshot
      have hsame (buffers : Buffers) (capacity : Nat) :
          (buffers.merge monitorId beats true capacity).merge monitorId beats true capacity =
            buffers.merge monitorId beats true capacity :=
        IdMap.insert_insert _ _ _ _
      cases shelf with
      | general => exact congrArg (Shelf.general.put · c) (hsame _ _)
      | important => exact congrArg (Shelf.important.put · c) (hsame _ _)
  | _ => cases hsnapshot

/-- Making several such writes a second time makes no difference, if their order is of no importance. -/
theorem applyAll_applyAll {writes : List StoreWrite} (hsnapshot : ∀ write ∈ writes, write.IsSnapshot)
    (hcommute : writes.Pairwise fun first later => Function.Commute first.apply later.apply)
    (c : Store.Contents) : applyAll writes (applyAll writes c) = applyAll writes c := by
  induction writes generalizing c with
  | nil => rfl
  | cons write rest ih =>
    rw [List.forall_mem_cons] at hsnapshot
    rw [List.pairwise_cons] at hcommute
    have hmove : Function.Commute (applyAll [write]) (applyAll rest) :=
      applyAll_commute (List.forall_mem_singleton.mpr hcommute.1)
    -- The second time, the first write is moved in front of all the others.
    calc
      applyAll rest (write.apply (applyAll rest (write.apply c)))
        = applyAll rest (applyAll rest (write.apply (write.apply c))) := congrArg _ (hmove (write.apply c))
      _ = applyAll rest (applyAll rest (write.apply c)) := by rw [apply_apply hsnapshot.1]
      _ = applyAll rest (write.apply c) := ih hsnapshot.2 hcommute.2 _

end StoreWrite

/-- Holds of two stores that have the same in a place. -/
def Place.HoldsAlike (s t : Store) : Place → Prop
  | connected => ∃ b, s.connected = .ok b ∧ t.connected = .ok b
  | autoLogin => ∃ b, s.autoLogin = .ok b ∧ t.autoLogin = .ok b
  | info => ∃ i, s.info = .ok i ∧ t.info = .ok i
  | monitors => ∃ table, s.monitorTable = .ok table ∧ t.monitorTable = .ok table
  | buffer shelf monitorId => ∃ beats, shelf.read s monitorId = .ok beats ∧ shelf.read t monitorId = .ok beats
  | mark name => s.hasSeen name = true ∧ t.hasSeen name = true

theorem Place.holdsAlike_of_mark (name : String) (c d : Store.Contents) :
    (mark name).HoldsAlike ⟨some { c with seen := c.seen.mark name }⟩
      ⟨some { d with seen := d.seen.mark name }⟩ := by
  have hseen (seen : SeenEvents) : (seen.mark name).has name = true := by simp [SeenEvents.has_mark]
  exact ⟨hseen c.seen, hseen d.seen⟩

theorem Place.holdsAlike_of_window (shelf : Shelf) (monitorId : Int64) (beats : List Heartbeat)
    (c d : Store.Contents) :
    (buffer shelf monitorId).HoldsAlike ⟨some ((HeartbeatWrite.set shelf monitorId beats true).apply c)⟩
      ⟨some ((HeartbeatWrite.set shelf monitorId beats true).apply d)⟩ :=
  ⟨_, shelf.read_of_window monitorId beats c, shelf.read_of_window monitorId beats d⟩

namespace EventKind

/-- Holds of the events that tell all that there is to tell about their target. A list of heartbeats does if it is
to replace the ones before it. -/
def IsSnapshot (kind : EventKind) (args : List Json) : Prop :=
  match kind with
  | heartbeat => False
  | heartbeatList | importantHeartbeatList => ∃ v, args[2]? = some v ∧ v.looseFlag = .ok true
  | _ => True

variable {kind : EventKind} {args : List Json} {writes : List StoreWrite}

theorem overwrite_of_snapshot {monitorId : Int64} {beats : List Heartbeat} {overwrite : Bool}
    (hsnapshot : ∃ v, args[2]? = some v ∧ v.looseFlag = .ok true)
    (hbatch : kind.heartbeatBatch args = .ok (monitorId, beats, overwrite)) : overwrite = true := by
  obtain ⟨v, hv, hflag⟩ := hsnapshot
  obtain ⟨-, -, hread⟩ := heartbeatBatch_eq_ok.mp hbatch
  rw [hv, Option.getD_some, hflag] at hread
  exact (Except.ok.inj hread).symm

theorem isSnapshot_of_mem_writes (hsnapshot : kind.IsSnapshot args) (hwrites : kind.writes args = .ok writes) :
    ∀ write ∈ writes, write.IsSnapshot := by
  cases kind with
  | connect | disconnect | message | error | autoLogin =>
    cases hwrites
    simp [StoreWrite.IsSnapshot]
  | info | monitorList =>
    obtain ⟨payload, -, hwritten⟩ := Except.bind_eq_ok.mp hwrites
    cases hwritten
    simp [StoreWrite.IsSnapshot]
  | heartbeatList | importantHeartbeatList =>
    obtain ⟨⟨monitorId, beats, overwrite⟩, hbatch, hwritten⟩ := Except.bind_eq_ok.mp hwrites
    cases hwritten
    exact List.forall_mem_singleton.mpr (overwrite_of_snapshot hsnapshot hbatch)
  | heartbeat => cases hsnapshot

/-- An event makes one write, and a mark besides. -/
theorem pairwise_commute_writes (hwrites : kind.writes args = .ok writes) :
    writes.Pairwise fun first later => Function.Commute first.apply later.apply := by
  have hpair (write : StoreWrite) (name : String) :
      [write, .mark name].Pairwise fun first later => Function.Commute first.apply later.apply :=
    List.pairwise_pair.mpr (StoreWrite.mark_commute name write).symm
  cases kind with
  | disconnect =>
    cases hwrites
    exact hpair _ _
  | monitorList =>
    obtain ⟨table, -, hwritten⟩ := Except.bind_eq_ok.mp hwrites
    cases hwritten
    exact hpair _ _
  | connect | message | error | autoLogin =>
    cases hwrites
    exact List.pairwise_singleton _ _
  | info | heartbeat | heartbeatList | importantHeartbeatList =>
    obtain ⟨payload, -, hwritten⟩ := Except.bind_eq_ok.mp hwrites
    cases hwritten
    exact List.pairwise_singleton _ _

theorem handle_again (hsnapshot : kind.IsSnapshot args) (s : Store) :
    let once := (kind.handle args).on s
    (kind.handle args).on once.2 = once := by
  intro once
  obtain ⟨contents?⟩ := s
  cases contents? with
  | none =>
    obtain ⟨result, hhandled, -⟩ := kind.handle_detached args
    have honce : once = (result, .detached) := hhandled
    rw [honce, hhandled]
  | some c =>
    have honce : once = _ := kind.handle_open args c
    cases hwrites : kind.writes args with
    | error e =>
      rw [honce, hwrites]
      simp only [handle_open, hwrites]
    | ok writes =>
      have hagain := StoreWrite.applyAll_applyAll (isSnapshot_of_mem_writes hsnapshot hwrites)
        (pairwise_commute_writes hwrites) c
      rw [honce, hwrites]
      simp only [handle_open, hwrites, hagain]

/-- What an event says of its target is there afterwards, whatever was there before. -/
theorem holdsAlike_of_writes (hsnapshot : kind.IsSnapshot args) (hwrites : kind.writes args = .ok writes)
    (c d : Store.Contents) :
    ∃ place, kind.target? args = some place ∧
      place.HoldsAlike ⟨some (StoreWrite.applyAll writes c)⟩ ⟨some (StoreWrite.applyAll writes d)⟩ := by
  cases kind with
  | connect | disconnect | autoLogin =>
    cases hwrites
    exact ⟨_, rfl, _, rfl, rfl⟩
  | message | error =>
    cases hwrites
    exact ⟨_, rfl, Place.holdsAlike_of_mark _ c d⟩
  | info | monitorList =>
    obtain ⟨payload, -, hwritten⟩ := Except.bind_eq_ok.mp hwrites
    cases hwritten
    exact ⟨_, rfl, payload, rfl, rfl⟩
  | heartbeatList =>
    obtain ⟨⟨monitorId, beats, overwrite⟩, hbatch, hwritten⟩ := Except.bind_eq_ok.mp hwrites
    cases hwritten
    cases overwrite_of_snapshot hsnapshot hbatch
    refine ⟨.buffer .general monitorId, ?_, Place.holdsAlike_of_window .general monitorId beats c d⟩
    rw [target?, hbatch]
    rfl
  | importantHeartbeatList =>
    obtain ⟨⟨monitorId, beats, overwrite⟩, hbatch, hwritten⟩ := Except.bind_eq_ok.mp hwrites
    cases hwritten
    cases overwrite_of_snapshot hsnapshot hbatch
    refine ⟨.buffer .important monitorId, ?_, Place.holdsAlike_of_window .important monitorId beats c d⟩
    rw [target?, hbatch]
    rfl
  | heartbeat => cases hsnapshot

theorem occurred_of_writes (hsnapshot : kind.IsSnapshot args) (hwrites : kind.writes args = .ok writes)
    (c : Store.Contents) : kind.occurred ⟨some (StoreWrite.applyAll writes c)⟩ = true := by
  have hsignals : (Operation.event kind args).Signals kind := by
    cases kind with
    | heartbeat => cases hsnapshot
    | heartbeatList | importantHeartbeatList => rfl
    | _ => exact .inl ⟨args, rfl⟩
  rw [kind.occurred_applyAll, (Operation.signals_event hwrites kind).mp hsignals, Bool.or_true]

/-- A snapshot that is handled once more gives the same result and leaves the same store. On two open stores it
gives the same result, and if it can be read, both have the same in its target afterwards, whatever each had
before, and both know that the event has occurred. -/
theorem handle_snapshot (kind : EventKind) (args : List Json) (hsnapshot : kind.IsSnapshot args) :
    (∀ s : Store,
      let once := (kind.handle args).on s
      (kind.handle args).on once.2 = once) ∧
    ∀ c d : Store.Contents,
      let ahead := (kind.handle args).on ⟨some c⟩
      let behind := (kind.handle args).on ⟨some d⟩
      ahead.1 = behind.1 ∧
      (ahead.1 = .ok () →
        (∃ place, kind.target? args = some place ∧ place.HoldsAlike ahead.2 behind.2) ∧
        kind.occurred ahead.2 = true ∧ kind.occurred behind.2 = true) := by
  refine ⟨handle_again hsnapshot, fun c d => ?_⟩
  intro ahead behind
  have hahead : ahead = _ := kind.handle_open args c
  have hbehind : behind = _ := kind.handle_open args d
  rw [hahead, hbehind]
  cases hwrites : kind.writes args with
  | error e => exact ⟨rfl, nofun⟩
  | ok writes =>
    exact ⟨rfl, fun _ => ⟨holdsAlike_of_writes hsnapshot hwrites c d, occurred_of_writes hsnapshot hwrites c,
      occurred_of_writes hsnapshot hwrites d⟩⟩

/-- A window that is longer than what is kept takes the place of the heartbeats of a monitor whole, also where it
has been taken in already. -/
theorem handle_window_again :
    let window := [Json.string " 7 ", .array [.object [], .object []], .string " T "]
    let kept : Store.Contents :=
      { retention := { heartbeats := 1 }, heartbeats := .value ((∅ : Buffers).insert 7 ⟨[{ id := 1 }]⟩) }
    let once := (heartbeatList.handle window).on ⟨some kept⟩
    let fresh := (heartbeatList.handle window).on ⟨some {}⟩
    (heartbeatList.handle window).on once.2 = once ∧ (Place.buffer .general 7).HoldsAlike once.2 fresh.2 ∧
      heartbeatList.occurred once.2 = true := by
  intro window kept once fresh
  have hflag : (Json.string " T ").looseFlag = .ok true := Except.toOption_eq_some.mp (by decide +kernel)
  have howner : (Json.string " 7 ").looseInt = .ok 7 := Except.toOption_eq_some.mp (by decide +kernel)
  obtain ⟨hagain, halike⟩ := handle_snapshot heartbeatList window ⟨_, rfl, hflag⟩
  have hbatch : heartbeatList.heartbeatBatch window = .ok (7, [{}, {}], true) :=
    heartbeatBatch_eq_ok.mpr ⟨⟨_, rfl, howner⟩, ⟨_, rfl, rfl⟩, hflag⟩
  have haccepted : once.1 = .ok () := by
    have honce : once = _ := heartbeatList.handle_open window kept
    rw [honce, writes, hbatch]
    rfl
  obtain ⟨⟨place, hplace, hsame⟩, hoccurred, -⟩ := (halike kept {}).2 haccepted
  rw [target?, hbatch] at hplace
  cases hplace
  exact ⟨hagain _, hsame, hoccurred⟩

end EventKind
end UptimeSync
