import Mathlib.Data.List.Induction
import UptimeSync.Proofs.Run.Operation

namespace UptimeSync

namespace StoreWrite

/-- What a write makes of the monitor table. A full replacement takes no notice of what was there. -/
def edit (table : IdMap Monitor) : StoreWrite → IdMap Monitor
  | monitors replacement => replacement
  | monitor m => table.insert m.id m
  | dropMonitor id => table.erase id
  | changeMonitor id f => table.modify id f
  | _ => table

/-- Holds of the writes after which there is a monitor table, be it an empty one. -/
def makesTable : StoreWrite → Bool
  | monitors _ | monitor _ => true
  | _ => false

/-- The monitors after a run of writes that began with none. -/
def tableAfter (writes : List StoreWrite) : IdMap Monitor := writes.foldl edit ∅

theorem tableAfter_concat (earlier : List StoreWrite) (last : StoreWrite) :
    tableAfter (earlier ++ [last]) = edit (tableAfter earlier) last := by
  rw [tableAfter, List.foldl_append]
  rfl

theorem isSet_monitors_apply (write : StoreWrite) (c : Store.Contents) :
    (write.apply c).monitors.isSet = (c.monitors.isSet || write.makesTable) := by
  cases write with
  | monitors replacement => exact (Bool.or_true _).symm
  | monitor m => exact (Bool.or_true _).symm
  | dropMonitor id => exact (Received.isSet_map _ _).trans (Bool.or_false _).symm
  | changeMonitor id f => exact (Received.isSet_map _ _).trans (Bool.or_false _).symm
  | history write =>
    rw [apply, write.apply_frame]
    exact (Bool.or_false _).symm
  | _ => exact (Bool.or_false _).symm

theorem getD_monitors_apply (write : StoreWrite) (c : Store.Contents) :
    (write.apply c).monitors.getD ∅ = edit (c.monitors.getD ∅) write := by
  cases write with
  | dropMonitor id => exact Received.getD_map (IdMap.erase_of_absent (by simp)) c.monitors
  | changeMonitor id f => exact Received.getD_map (IdMap.modify_of_absent (by simp) f) c.monitors
  | history write =>
    rw [apply, write.apply_frame]
    rfl
  | _ => rfl

/-- After a run of writes there is a monitor table if one of the writes makes one. What it holds is what
the writes after the last full replacement make of that. -/
theorem monitors_applyAll {c : Store.Contents} (hfresh : c.monitors = .notYet) (writes : List StoreWrite) :
    (applyAll writes c).monitors =
      if writes.any makesTable then .value (tableAfter writes) else .notYet := by
  have hrun : (applyAll writes c).monitors.isSet = writes.any makesTable ∧
      (applyAll writes c).monitors.getD ∅ = tableAfter writes := by
    -- Whether there is a table and what it holds are followed apart, since a drop does not make one.
    induction writes using List.reverseRecOn with
    | nil =>
      rw [applyAll_nil, hfresh]
      exact ⟨rfl, rfl⟩
    | append_singleton earlier last ih =>
      rw [applyAll_concat, isSet_monitors_apply, getD_monitors_apply, ih.1, ih.2, tableAfter_concat]
      simp
  obtain ⟨hset, htable⟩ := hrun
  rw [← hset, ← htable]
  cases (applyAll writes c).monitors <;> rfl

end StoreWrite

theorem Store.monitorTable_after (retention : Retention) (operations : List Operation) :
    let writes := (Store.empty retention).writes operations
    ((Store.empty retention).after operations).monitorTable =
      if writes.any StoreWrite.makesTable then .ok (StoreWrite.tableAfter writes)
      else .error .notSetYet := by
  intro writes
  rw [Store.after_empty]
  change (StoreWrite.applyAll writes { retention }).monitors.get = _
  rw [StoreWrite.monitors_applyAll rfl]
  cases writes.any StoreWrite.makesTable <;> rfl

end UptimeSync
