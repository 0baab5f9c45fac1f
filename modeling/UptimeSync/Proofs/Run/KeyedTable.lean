import UptimeSync.Proofs.Run.MonitorTable

namespace UptimeSync

/-- Holds of a table in which every monitor lies under its own identifier. -/
def IdMap.Keyed (table : IdMap Monitor) : Prop :=
  ∀ (id : Int64) (m : Monitor), table[id]? = some m → m.id = id

namespace StoreWrite

/-- Holds of the writes that change no identifier in place. -/
def KeepsIds : StoreWrite → Prop
  | changeMonitor _ f => ∀ m, (f m).id = m.id
  | _ => True

/-- The table that a write puts in place of the one before. -/
def replacement? : StoreWrite → Option (IdMap Monitor)
  | monitors table => some table
  | _ => none

theorem keyed_edit {table : IdMap Monitor} {write : StoreWrite} (hkeyed : table.Keyed)
    (hkeeps : write.KeepsIds)
    (hreplaced : ∀ replacement, write.replacement? = some replacement → replacement.Keyed) :
    (edit table write).Keyed := by
  intro id m hfound
  cases write with
  | monitors replacement => exact hreplaced replacement rfl id m hfound
  | monitor put =>
    rw [edit, IdMap.getElem?_insert] at hfound
    split at hfound
    · next hid =>
      cases hfound
      exact hid
    · exact hkeyed id m hfound
  | dropMonitor dropped =>
    rw [edit, IdMap.getElem?_erase] at hfound
    split at hfound
    · cases hfound
    · exact hkeyed id m hfound
  | changeMonitor changed f =>
    rw [edit, IdMap.getElem?_modify] at hfound
    split at hfound
    · obtain ⟨before, hbefore, hafter⟩ := Option.map_eq_some_iff.mp hfound
      rw [← hafter, hkeeps before]
      exact hkeyed id before hbefore
    · exact hkeyed id m hfound
  | _ => exact hkeyed id m hfound

theorem edit_of_replacement {write : StoreWrite} {replacement : IdMap Monitor}
    (hreplacement : write.replacement? = some replacement) (table : IdMap Monitor) :
    edit table write = replacement := by
  cases write with
  | monitors received =>
    cases hreplacement
    rfl
  | _ => cases hreplacement

/-- A table is keyed after a run of writes if the last one received is. Those before it do not matter. -/
theorem keyed_tableAfter {writes : List StoreWrite} (hkeeps : ∀ write ∈ writes, write.KeepsIds)
    (hreceived : ∀ table, last? replacement? writes = some table → table.Keyed) :
    (tableAfter writes).Keyed := by
  induction writes using List.reverseRecOn with
  | nil =>
    intro id m hfound
    simp [tableAfter] at hfound
  | append_singleton earlier write ih =>
    rw [last?_concat] at hreceived
    rw [tableAfter_concat]
    have hwrite := hkeeps write (List.mem_append_right _ (List.mem_singleton_self write))
    have hearlier : ∀ w ∈ earlier, w.KeepsIds := fun w hw => hkeeps w (List.mem_append_left _ hw)
    -- A write that replaces the table asks nothing of the ones before, which need not be keyed.
    cases hreplacement : write.replacement? with
    | none =>
      rw [hreplacement, Option.none_or] at hreceived
      exact keyed_edit (ih hearlier hreceived) hwrite (by simp [hreplacement])
    | some replacement =>
      rw [hreplacement, Option.some_or] at hreceived
      rw [edit_of_replacement hreplacement]
      exact hreceived replacement rfl

end StoreWrite

namespace Operation

/-- Holds of the operations that change no identifier in place. Only a caller of the store can do so. -/
def KeepsIds : Operation → Prop
  | write w => w.KeepsIds
  | _ => True

end Operation

theorem EventKind.writes_keepIds {kind : EventKind} {args : List Json} {writes : List StoreWrite}
    (hwrites : kind.writes args = .ok writes) : ∀ write ∈ writes, write.KeepsIds := by
  cases kind with
  | connect | disconnect | message | error | autoLogin =>
    cases hwrites
    simp [StoreWrite.KeepsIds]
  | _ =>
    obtain ⟨payload, -, hwritten⟩ := Except.bind_eq_ok.mp hwrites
    cases hwritten
    simp [StoreWrite.KeepsIds]

theorem Action.writes_keepIds (a : Action) (answer : Answer) :
    ∀ write ∈ a.writes answer, write.KeepsIds := by
  unfold Action.writes
  split <;> simp [StoreWrite.KeepsIds]

theorem Deed.writes_keepIds {deed : Deed} (hkeeps : deed.operation.KeepsIds) :
    ∀ write ∈ deed.writes, write.KeepsIds := by
  obtain ⟨operation, answer⟩ := deed
  cases answer with
  | error e => exact fun _ hwrite => absurd hwrite List.not_mem_nil
  | ok answer =>
    cases operation with
    | event kind args =>
      rw [writes]
      cases hwrites : kind.writes args with
      | error e => exact fun _ hwrite => absurd hwrite List.not_mem_nil
      | ok writes => exact EventKind.writes_keepIds hwrites
    | write w =>
      intro write hwrite
      obtain rfl := List.mem_singleton.mp hwrite
      exact hkeeps
    | action a e x => exact a.writes_keepIds answer

namespace Store

theorem operation_mem_of_mem_deeds {s : Store} {operations : List Operation} {deed : Deed}
    (hdeed : deed ∈ s.deeds operations) : deed.operation ∈ operations := by
  induction operations generalizing s with
  | nil => cases hdeed
  | cons op rest ih =>
    obtain rfl | hlater := List.mem_cons.mp hdeed
    · exact List.mem_cons_self
    · exact List.mem_cons_of_mem op (ih hlater)

theorem entry_eq_ok {α : Type} {what : String} {table : IdMap α} {id : Int64} {a : α} :
    entry what table id = .ok a ↔ table[id]? = some a := by
  rw [entry]
  cases table[id]? <;> simp

theorem monitor_eq_ok {s : Store} {id : Int64} {m : Monitor} :
    s.monitor id = .ok m ↔ ∃ table, s.monitorTable = .ok table ∧ table[id]? = some m := by
  rw [monitor, Except.bind_eq_ok]
  simp only [entry_eq_ok]

theorem monitors_eq_ok {s : Store} {cached : List Monitor} :
    s.monitors = .ok cached ↔ ∃ table, s.monitorTable = .ok table ∧ table.values = cached := by
  rw [monitors]
  cases s.monitorTable <;> simp [Except.map]

/-- The monitors that an initially empty store answers after a run of operations that changes no
identifier in place. If the table that was received last as a whole has every monitor under its own
identifier, so has the store, however monitors were added, edited and taken out since, and the list
of all monitors is in strictly ascending order of their identifiers. -/
theorem monitors_keyed_after_run (retention : Retention) (operations : List Operation)
    (hkeeps : ∀ op ∈ operations, op.KeepsIds)
    (hreceived : ∀ table, StoreWrite.last? StoreWrite.replacement?
      ((Store.empty retention).writes operations) = some table → table.Keyed) :
    let s := (Store.empty retention).after operations
    (∀ id m, s.monitor id = .ok m → m.id = id) ∧
    ∀ cached, s.monitors = .ok cached →
      cached.Pairwise (·.id < ·.id) ∧ ∀ m, m ∈ cached ↔ s.monitor m.id = .ok m := by
  intro s
  have hwrites : ∀ write ∈ (Store.empty retention).writes operations, write.KeepsIds := by
    intro write hwrite
    obtain ⟨deed, hdeed, hwrite⟩ := List.mem_flatMap.mp hwrite
    exact Deed.writes_keepIds (hkeeps _ (operation_mem_of_mem_deeds hdeed)) write hwrite
  have hkeyed : ∀ table, s.monitorTable = .ok table → table.Keyed := by
    intro table htable
    rw [Store.monitorTable_after] at htable
    split at htable
    · obtain rfl := Except.ok.inj htable
      exact StoreWrite.keyed_tableAfter hwrites hreceived
    · cases htable
  constructor
  · intro id m hmonitor
    obtain ⟨table, htable, hfound⟩ := monitor_eq_ok.mp hmonitor
    exact hkeyed table htable id m hfound
  · intro cached hmonitors
    obtain ⟨table, htable, rfl⟩ := monitors_eq_ok.mp hmonitors
    refine ⟨IdMap.pairwise_values (hkeyed table htable), fun m => ?_⟩
    rw [IdMap.mem_values, monitor_eq_ok]
    constructor
    · rintro ⟨id, hfound⟩
      obtain rfl := hkeyed table htable id m hfound
      exact ⟨table, htable, hfound⟩
    · rintro ⟨_, hsame, hfound⟩
      rw [htable] at hsame
      cases hsame
      exact ⟨m.id, hfound⟩

/-- A monitor that is added to a received table comes before the ones with greater identifiers. An
earlier table whose monitors lay under the identifiers of others does no harm. -/
theorem monitors_keyed_after_addition :
    let swapped : Json := .object
      [("1", .object [("id", .ofInt64 2)]), ("2", .object [("id", .ofInt64 1)])]
    let proper : Json := .object [("3", .object [("id", .ofInt64 3)])]
    let operations : List Operation :=
      [.event .monitorList [swapped], .event .monitorList [proper], .write (.monitor { id := 1 })]
    ((Store.empty {}).after operations).monitors = .ok [{ id := 1 }, { id := 3 }] ∧
      [({ id := 1 } : Monitor), { id := 3 }].Pairwise (·.id < ·.id) := by
  intro swapped proper operations
  have hkeeps : ∀ op ∈ operations, op.KeepsIds := by
    simp [operations, Operation.KeepsIds, StoreWrite.KeepsIds]
  have hlast : StoreWrite.last? StoreWrite.replacement? ((Store.empty {}).writes operations) =
      some ((∅ : IdMap Monitor).insert 3 { id := 3 }) := rfl
  have hreceived : ∀ table, StoreWrite.last? StoreWrite.replacement?
      ((Store.empty {}).writes operations) = some table → table.Keyed := by
    intro table htable
    rw [hlast] at htable
    obtain rfl := Option.some.inj htable
    intro id m hfound
    rw [IdMap.getElem?_insert] at hfound
    split at hfound
    · next hid =>
      cases hfound
      exact hid
    · simp at hfound
  exact ⟨rfl, ((monitors_keyed_after_run {} operations hkeeps hreceived).2 _ rfl).1⟩

/-- Without a look at the identifiers in a received table, a monitor is found under that of another, and
the list of all monitors is out of order. -/
theorem monitors_out_of_order :
    let swapped : Json := .object
      [("1", .object [("id", .ofInt64 2)]), ("2", .object [("id", .ofInt64 1)])]
    let s := (Store.empty {}).after [.event .monitorList [swapped]]
    (∃ m, s.monitor 1 = .ok m ∧ m.id ≠ 1) ∧
      ∃ cached, s.monitors = .ok cached ∧ ¬ cached.Pairwise (·.id < ·.id) := by
  intro swapped s
  refine ⟨⟨{ id := 2 }, rfl, by decide⟩, [{ id := 2 }, { id := 1 }], rfl, ?_⟩
  intro hascending
  have horder := (List.pairwise_cons.mp hascending).1 { id := 1 } (List.mem_singleton_self _)
  exact absurd horder (by decide)

end Store
end UptimeSync
