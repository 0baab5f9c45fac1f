import UptimeSync.Proofs.History.Step

namespace UptimeSync

/-- A run of writes on an empty store leaves it open. A shelf is there once a write has reached it, and
each of its buffers is what the deliveries to it leave, whatever other monitors and the other shelf
received in between. -/
theorem Store.afterWrites_empty (retention : Retention) (writes : List HeartbeatWrite) :
    ∃ c : Store.Contents, (Store.empty retention).afterWrites writes = ⟨some c⟩ ∧
      c.retention = retention ∧
      ∀ shelf : Shelf,
        (shelf.buffers c).isSet = writes.any (·.reaches shelf) ∧
        ∀ monitorId, shelf.buffer? c monitorId =
          Delivery.replay (shelf.capacity retention) (writes.filterMap (·.delivery? shelf monitorId)) := by
  induction writes using List.reverseRecOn with
  | nil =>
    refine ⟨{ retention }, rfl, rfl, fun shelf => ⟨?_, fun monitorId => ?_⟩⟩
    · cases shelf <;> rfl
    · cases shelf <;> simp [Shelf.buffer?, Shelf.buffers, Delivery.replay]
  | append_singleton earlier last ih =>
    obtain ⟨c, hrun, hretention, hshelves⟩ := ih
    obtain ⟨after, hlast, hkept, hstep⟩ := last.step c
    refine ⟨after, ?_, hkept.trans hretention, fun shelf => ⟨?_, fun monitorId => ?_⟩⟩
    · rw [Store.afterWrites, List.foldl_append]
      change (last.access.on ((Store.empty retention).afterWrites earlier)).2 = _
      rw [hrun, hlast]
    · rw [(hstep shelf).1, (hshelves shelf).1]
      simp
    · rw [(hstep shelf).2, (hshelves shelf).2, hretention, List.filterMap_append, Delivery.replay]
      cases hdelivery : last.delivery? shelf monitorId with
      | none => simp [hdelivery, Delivery.replay]
      | some delivery => simp [hdelivery, Delivery.replay]

/-- A write delivers the heartbeats that it brings as heartbeats of the monitor. -/
theorem HeartbeatWrite.mem_beats_of_delivery {write : HeartbeatWrite} {shelf : Shelf}
    {monitorId : Int64} {delivery : Delivery Heartbeat} {stored : Heartbeat}
    (hdelivery : write.delivery? shelf monitorId = some delivery) (hstored : stored ∈ delivery.items) :
    ∃ beat ∈ write.beats, stored = { beat with monitorId } := by
  cases write with
  | append beat =>
    rw [delivery?] at hdelivery
    split at hdelivery
    · cases hdelivery
      exact ⟨beat, List.mem_singleton_self beat, List.mem_singleton.mp hstored⟩
    · cases hdelivery
  | set target owner beats overwrite =>
    rw [delivery?] at hdelivery
    split at hdelivery
    · have hitems : delivery.items = beats.map fun beat => { beat with monitorId } := by
        cases hdelivery
        cases overwrite <;> rfl
      rw [hitems] at hstored
      obtain ⟨beat, hbeat, howned⟩ := List.mem_map.mp hstored
      exact ⟨beat, hbeat, howned.symm⟩
    · cases hdelivery
  | clear cleared =>
    rw [delivery?] at hdelivery
    split at hdelivery
    · cases hdelivery
      cases hstored
    · cases hdelivery

/-- A delivery that is not a clear comes from a write that reaches the shelf. -/
theorem HeartbeatWrite.reaches_of_delivery {write : HeartbeatWrite} {shelf : Shelf} {monitorId : Int64}
    {delivery : Delivery Heartbeat} (hdelivery : write.delivery? shelf monitorId = some delivery)
    (hclear : delivery.isClear = false) : write.reaches shelf = true := by
  cases write with
  | append beat =>
    rw [delivery?] at hdelivery
    split at hdelivery
    · next htarget => simp [reaches, htarget.1]
    · cases hdelivery
  | set target owner beats overwrite =>
    rw [delivery?] at hdelivery
    split at hdelivery
    · next htarget => simp [reaches, htarget.1]
    · cases hdelivery
  | clear cleared =>
    rw [delivery?] at hdelivery
    split at hdelivery
    · cases hdelivery
      cases hclear
    · cases hdelivery

theorem HeartbeatWrite.exists_reaches {writes : List HeartbeatWrite} {shelf : Shelf} {monitorId : Int64}
    (hsince : Delivery.sinceClear (writes.filterMap (·.delivery? shelf monitorId)) ≠ []) :
    ∃ write ∈ writes, write.reaches shelf = true := by
  obtain ⟨delivery, hmem⟩ := List.exists_mem_of_ne_nil _ hsince
  have hclear : delivery.isClear = false := by simpa using List.mem_rtakeWhile_imp hmem
  have hdelivered := (List.rtakeWhile_suffix _ _).subset hmem
  obtain ⟨write, hwrite, hdelivery⟩ := List.mem_filterMap.mp hdelivered
  exact ⟨write, hwrite, reaches_of_delivery hdelivery hclear⟩

/-- What is answered after a run of writes comes from a replay of the deliveries to the one buffer. -/
theorem Shelf.read_afterWrites (retention : Retention) (writes : List HeartbeatWrite) (shelf : Shelf)
    (monitorId : Int64) :
    shelf.read ((Store.empty retention).afterWrites writes) monitorId =
      if writes.any (·.reaches shelf) then
        (Delivery.replay (shelf.capacity retention)
          (writes.filterMap (·.delivery? shelf monitorId))).elim
            (.error (.notFound shelf.label monitorId)) .ok
      else .error .notSetYet := by
  obtain ⟨c, hrun, -, hshelves⟩ := Store.afterWrites_empty retention writes
  rw [hrun, Shelf.read_open, (hshelves shelf).1, (hshelves shelf).2]

/-- Every heartbeat that is answered was brought by a write, and is stored as it came but for the
monitor that it names. -/
theorem Shelf.delivered_of_read {retention : Retention} {writes : List HeartbeatWrite} {shelf : Shelf}
    {monitorId : Int64} {beats : List Heartbeat}
    (hread : shelf.read ((Store.empty retention).afterWrites writes) monitorId = .ok beats)
    {stored : Heartbeat} (hstored : stored ∈ beats) :
    ∃ write ∈ writes, ∃ beat ∈ write.beats, stored = { beat with monitorId } := by
  rw [Shelf.read_afterWrites] at hread
  split at hread
  · cases hreplay : Delivery.replay (shelf.capacity retention)
        (writes.filterMap (·.delivery? shelf monitorId)) with
    | none => simp [hreplay] at hread
    | some kept =>
      obtain rfl : kept = beats := by simpa [hreplay] using hread
      obtain ⟨delivery, hmem, hitem⟩ := Delivery.mem_items_of_mem_replay hreplay hstored
      obtain ⟨write, hwrite, hdelivery⟩ := List.mem_filterMap.mp hmem
      exact ⟨write, hwrite, HeartbeatWrite.mem_beats_of_delivery hdelivery hitem⟩
  · cases hread

/-- What a store answers about the heartbeats of a monitor after any run of writes, for any
capacities. Before a write has reached the shelf nothing is known; without one for the monitor
since its last clear there is no buffer. Otherwise a last window with no later batch is answered
whole, and if batches followed, be they empty, the answer is the end of the window and the batches
together, in the order of arrival. A heartbeat is stored as it was delivered, but for the monitor
that it names. -/
theorem Store.heartbeats_after_writes (retention : Retention) (writes : List HeartbeatWrite)
    (shelf : Shelf) (monitorId : Int64) :
    let answer := shelf.read ((Store.empty retention).afterWrites writes) monitorId
    let deliveries := writes.filterMap (·.delivery? shelf monitorId)
    (answer = .error .notSetYet ↔ ∀ write ∈ writes, write.reaches shelf = false) ∧
    (answer = .error (.notFound shelf.label monitorId) ↔
      (∃ write ∈ writes, write.reaches shelf = true) ∧ Delivery.sinceClear deliveries = []) ∧
    (Delivery.sinceClear deliveries ≠ [] → Delivery.laterBatches deliveries = [] →
      answer = .ok (Delivery.lastWindow deliveries)) ∧
    (Delivery.laterBatches deliveries ≠ [] →
      answer = .ok ((Delivery.lastWindow deliveries ++ Delivery.laterItems deliveries).rtake
        (shelf.capacity retention))) ∧
    ∀ beats, answer = .ok beats → ∀ stored ∈ beats,
      ∃ write ∈ writes, ∃ beat ∈ write.beats, stored = { beat with monitorId } := by
  intro answer deliveries
  have hanswer : answer =
      if writes.any (·.reaches shelf) then
        (Delivery.replay (shelf.capacity retention) deliveries).elim
          (.error (.notFound shelf.label monitorId)) .ok
      else .error .notSetYet := Shelf.read_afterWrites ..
  have hstored : ∀ beats, answer = .ok beats → ∀ stored ∈ beats,
      ∃ write ∈ writes, ∃ beat ∈ write.beats, stored = { beat with monitorId } :=
    fun _ hread _ hmem => Shelf.delivered_of_read hread hmem
  rw [Delivery.replay_eq] at hanswer
  by_cases hreached : ∃ write ∈ writes, write.reaches shelf = true
  · have hnotAll : ¬ ∀ write ∈ writes, write.reaches shelf = false := by
      obtain ⟨write, hwrite, hreaches⟩ := hreached
      intro hall
      rw [hall write hwrite] at hreaches
      cases hreaches
    rw [if_pos (List.any_eq_true.mpr hreached)] at hanswer
    by_cases hsince : Delivery.sinceClear deliveries = []
    · rw [if_pos hsince] at hanswer
      refine ⟨?_, ?_, ?_, ?_, hstored⟩
      all_goals simp [hanswer, hsince, hreached, hnotAll, Delivery.laterBatches_eq_nil hsince]
    · rw [if_neg hsince] at hanswer
      by_cases hlater : Delivery.laterBatches deliveries = []
      · rw [if_pos hlater] at hanswer
        refine ⟨?_, ?_, ?_, ?_, hstored⟩
        all_goals simp [hanswer, hsince, hlater, hnotAll]
      · rw [if_neg hlater] at hanswer
        refine ⟨?_, ?_, ?_, ?_, hstored⟩
        all_goals simp [hanswer, hsince, hlater, hnotAll]
  · have hnone : ∀ write ∈ writes, write.reaches shelf = false := by
      intro write hwrite
      by_contra hreaches
      exact hreached ⟨write, hwrite, by simpa using hreaches⟩
    have hsince : Delivery.sinceClear deliveries = [] := by
      by_contra hnonempty
      exact hreached (HeartbeatWrite.exists_reaches hnonempty)
    rw [if_neg (by simpa using hnone)] at hanswer
    refine ⟨?_, ?_, ?_, ?_, hstored⟩
    · exact iff_of_true hanswer hnone
    all_goals simp [hanswer, hsince, hreached, Delivery.laterBatches_eq_nil hsince]

/-- A window longer than the capacity stays whole until the next live heartbeat of the monitor, which
cuts it down. Heartbeats of another monitor do not. -/
theorem Store.heartbeats_after_long_window :
    let window : HeartbeatWrite := .set .general 7 [{ id := 1 }, { id := 2 }, { id := 3 }] true
    let elsewhere : HeartbeatWrite := .append { id := 9, monitorId := 8 }
    let live : HeartbeatWrite := .append { id := 4, monitorId := 7 }
    let deliveries := [window, elsewhere, live].filterMap (·.delivery? .general 7)
    Delivery.laterBatches deliveries ≠ [] ∧
    Shelf.general.read
        ((Store.empty { heartbeats := 2, importantHeartbeats := 0 }).afterWrites [window, elsewhere, live]) 7 =
      .ok [{ id := 3, monitorId := 7 }, { id := 4, monitorId := 7 }] :=
  ⟨by decide, (Store.heartbeats_after_writes _ _ .general 7).2.2.2.1 (by decide)⟩

end UptimeSync
