import UptimeSync.Proofs.Action.Change
import UptimeSync.Proofs.History.Writes
import UptimeSync.Proofs.Results

namespace UptimeSync

theorem HeartbeatWrite.access_clear (monitorId : Int64) :
    (clear monitorId).access = Store.write (Change.dropHeartbeats monitorId).apply := rfl

/-- What a write to the heartbeats makes of the contents of a store. -/
def HeartbeatWrite.apply : HeartbeatWrite → Store.Contents → Store.Contents
  | append beat, c =>
    let shelf := Shelf.ofBeat beat
    shelf.put (((shelf.buffers c).getD ∅).append beat (shelf.capacity c.retention)) c
  | set shelf monitorId beats overwrite, c =>
    shelf.put (((shelf.buffers c).getD ∅).merge monitorId beats overwrite
      (shelf.capacity c.retention)) c
  | clear monitorId, c => (Change.dropHeartbeats monitorId).apply c

theorem HeartbeatWrite.access_eq_write (write : HeartbeatWrite) :
    write.access = Store.write write.apply := by
  cases write with
  | append beat => exact access_append beat
  | set shelf monitorId beats overwrite => exact access_set shelf monitorId beats overwrite
  | clear monitorId => exact access_clear monitorId

/-- A write to the heartbeats changes nothing but the two shelves. -/
theorem HeartbeatWrite.apply_frame (write : HeartbeatWrite) (c : Store.Contents) :
    write.apply c = { c with
      heartbeats := (write.apply c).heartbeats
      importantHeartbeats := (write.apply c).importantHeartbeats } := by
  cases write with
  | append beat =>
    rw [apply]
    cases Shelf.ofBeat beat <;> rfl
  | set shelf monitorId beats overwrite => cases shelf <;> rfl
  | clear monitorId => rfl

/-- A write to the store by whoever holds it, with the values that it brings. -/
inductive StoreWrite where
  | connected (connected : Bool)
  | loggedIn (loggedIn : Bool)
  | autoLogin (autoLogin : Bool)
  | info (info : Info)
  | settings (settings : Settings)
  | monitors (table : IdMap Monitor)
  | monitor (monitor : Monitor)
  | dropMonitor (id : Int64)
  | changeMonitor (id : Int64) (f : Monitor → Monitor)
  | tags (tags : List Tag)
  | tag (tag : Tag)
  | dropTag (id : Int64)
  | history (write : HeartbeatWrite)
  | mark (name : String)

theorem Store.tagTable_of_value {c : Store.Contents} {table : IdMap Tag} (htable : c.tags = .value table) :
    (⟨some c⟩ : Store).tagTable = .ok table :=
  congrArg Received.get htable

theorem Store.tags_of_value {c : Store.Contents} {table : IdMap Tag} (htable : c.tags = .value table) :
    (⟨some c⟩ : Store).tags = .ok table.values := by
  rw [tags, tagTable_of_value htable]
  rfl

namespace StoreWrite

def access : StoreWrite → Access Unit
  | connected b => Store.setConnected b
  | loggedIn b => Store.setLoggedIn b
  | autoLogin b => Store.setAutoLogin b
  | info i => Store.setInfo i
  | settings x => Store.setSettings x
  | monitors table => Store.setMonitors table
  | monitor m => Store.setMonitor m
  | dropMonitor id => Store.deleteMonitor id
  | changeMonitor id f => Store.updateMonitor id f
  | tags ts => Store.setTags ts
  | tag t => Store.setTag t
  | dropTag id => Store.deleteTag id
  | history write => write.access
  | mark name => Store.markSeen name

/-- What a write makes of the contents of a store. Where there is no monitor to be taken out or
changed, the write fails and makes nothing of them. -/
def apply : StoreWrite → Store.Contents → Store.Contents
  | connected b, c => { c with connected := .value b }
  | loggedIn b, c => (Change.loggedIn b).apply c
  | autoLogin b, c => { c with autoLogin := .value b }
  | info i, c => { c with info := .value i }
  | settings x, c => (Change.settings x).apply c
  | monitors table, c => { c with monitors := .value table }
  | monitor m, c => (Change.monitor m).apply c
  | dropMonitor id, c => (Change.dropMonitor id).apply c
  | changeMonitor id f, c => { c with monitors := c.monitors.map (·.modify id f) }
  | tags ts, c => (Change.tags ts).apply c
  | tag t, c => (Change.tag t).apply c
  | dropTag id, c => (Change.dropTag id).apply c
  | history write, c => write.apply c
  | mark name, c => { c with seen := c.seen.mark name }

theorem access_open (write : StoreWrite) (c : Store.Contents) :
    (write.access.on ⟨some c⟩).2 = ⟨some (write.apply c)⟩ := by
  cases write with
  | dropMonitor id => exact ((Change.dropMonitor id).access_open c).1
  | changeMonitor id f =>
    exact (Change.entry_update_open (fun _ habsent => IdMap.modify_of_absent habsent f)
      (fun _ _ hpresent => IdMap.insert_of_present hpresent f) c).1
  | history write => rw [access, HeartbeatWrite.access_eq_write]; rfl
  | _ => rfl

/-- The monitor that has to be there for a write. -/
def target? : StoreWrite → Option Int64
  | dropMonitor id | changeMonitor id _ => some id
  | _ => none

/-- Whether the entry of a monitor can be updated is told by asking for the monitor. -/
theorem isOk_entry_update (id : Int64) (f : Store.Contents → IdMap Monitor → Monitor → Store.Contents)
    (c : Store.Contents) :
    ((Store.update fun c => do
      let table ← c.monitors.get
      let m ← Store.entry "monitor" table id
      return f c table m).on ⟨some c⟩).1.isOk = ((⟨some c⟩ : Store).monitor id).isOk := by
  rw [Access.on_update_open]
  change _ = (c.monitors.get >>= fun table => Store.entry "monitor" table id).isOk
  cases c.monitors.get with
  | error e => rfl
  | ok table =>
    rw [Except.ok_bind, Except.ok_bind]
    cases Store.entry "monitor" table id <;> rfl

/-- On an open store every write succeeds, except one to a monitor that is not there. -/
theorem isOk_access_open (write : StoreWrite) (c : Store.Contents) :
    (write.access.on ⟨some c⟩).1.isOk = write.target?.all fun id => ((⟨some c⟩ : Store).monitor id).isOk := by
  cases write with
  | dropMonitor id => exact isOk_entry_update id (fun c table _ => { c with monitors := .value (table.erase id) }) c
  | changeMonitor id f =>
    exact isOk_entry_update id (fun c table m => { c with monitors := .value (table.insert id (f m)) }) c
  | history write => rw [access, HeartbeatWrite.access_eq_write]; rfl
  | _ => rfl

theorem access_atomic (write : StoreWrite) : write.access.Atomic := by
  cases write with
  | dropMonitor id => exact .update _
  | changeMonitor id f => exact .update _
  | mark name => exact .markSeen name
  | history write =>
    rw [access, HeartbeatWrite.access_eq_write]
    exact .write _
  | _ => exact .write _

def applyAll (writes : List StoreWrite) (c : Store.Contents) : Store.Contents :=
  writes.foldl (fun c write => write.apply c) c

@[simp] theorem applyAll_nil (c : Store.Contents) : applyAll [] c = c := rfl

theorem applyAll_append (first later : List StoreWrite) (c : Store.Contents) :
    applyAll (first ++ later) c = applyAll later (applyAll first c) :=
  List.foldl_append

theorem applyAll_concat (earlier : List StoreWrite) (last : StoreWrite) (c : Store.Contents) :
    applyAll (earlier ++ [last]) c = last.apply (applyAll earlier c) := by
  rw [applyAll_append]
  rfl

/-- The tags stay known, whichever of them are taken out. -/
theorem isSet_tags_apply (write : StoreWrite) {c : Store.Contents} (hset : c.tags.isSet = true) :
    (write.apply c).tags.isSet = true := by
  cases write with
  | tags | tag => rfl
  | dropTag id => exact (Received.isSet_map _ _).trans hset
  | history write =>
    rw [apply, write.apply_frame]
    exact hset
  | _ => exact hset

theorem isSet_tags_applyAll (writes : List StoreWrite) {c : Store.Contents} (hset : c.tags.isSet = true) :
    (applyAll writes c).tags.isSet = true := by
  induction writes generalizing c with
  | nil => exact hset
  | cons write rest ih => exact ih (write.isSet_tags_apply hset)

/-- What the last of the writes brings that bring something of a kind. -/
def last? {α : Type} (brought? : StoreWrite → Option α) (writes : List StoreWrite) : Option α :=
  (writes.filterMap brought?).getLast?

theorem last?_concat {α : Type} (brought? : StoreWrite → Option α) (earlier : List StoreWrite)
    (last : StoreWrite) :
    last? brought? (earlier ++ [last]) = (brought? last).or (last? brought? earlier) := by
  rw [last?, List.filterMap_append, List.getLast?_append, last?]
  cases hbrought : brought? last <;> simp [hbrought]

theorem exists_mem_of_last? {α : Type} {brought? : StoreWrite → Option α} {writes : List StoreWrite}
    {a : α} (hlast : last? brought? writes = some a) : ∃ write ∈ writes, brought? write = some a :=
  List.mem_filterMap.mp (List.mem_of_getLast? hlast)

end StoreWrite

def Change.write : Change → StoreWrite
  | loggedIn b => .loggedIn b
  | tags ts => .tags ts
  | tag t => .tag t
  | dropTag id => .dropTag id
  | monitor m => .monitor m
  | dropMonitor id => .dropMonitor id
  | active id b => .changeMonitor id fun m => { m with active := b }
  | dropHeartbeats id => .history (.clear id)
  | settings x => .settings x

theorem Change.apply_eq_write (change : Change) (c : Store.Contents) :
    change.apply c = change.write.apply c := by
  cases change <;> rfl

theorem Change.applyAll_eq_writes (changes : List Change) (c : Store.Contents) :
    applyAll changes c = StoreWrite.applyAll (changes.map write) c := by
  rw [applyAll, StoreWrite.applyAll, List.foldl_map]
  simp only [apply_eq_write]

end UptimeSync
