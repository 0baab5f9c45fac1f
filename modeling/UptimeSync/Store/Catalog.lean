import UptimeSync.Store.Basic

namespace UptimeSync.Store

/-- The entry of a table for an identifier. -/
def entry (what : String) (table : IdMap α) (id : Int64) : Except Error α :=
  match table[id]? with
  | some a => .ok a
  | none => .error (.notFound what id)

/-- The monitor table. -/
def monitorTable (s : Store) : Except Error (IdMap Monitor) := do
  (← s.contents).monitors.get

/-- All monitors, by ascending key. -/
def monitors (s : Store) : Except Error (List Monitor) :=
  s.monitorTable.map (·.values)

/-- The monitor under a key. -/
def monitor (s : Store) (id : Int64) : Except Error Monitor := do
  entry "monitor" (← s.monitorTable) id

/-- Replaces the whole monitor table. -/
def setMonitors (table : IdMap Monitor) : Access Unit :=
  write fun c => { c with monitors := .value table }

/-- Puts a monitor under its own identifier. -/
def setMonitor (m : Monitor) : Access Unit :=
  write fun c => { c with monitors := .value ((c.monitors.getD ∅).insert m.id m) }

/-- Takes out the monitor under a key. -/
def deleteMonitor (id : Int64) : Access Unit :=
  update fun c => do
    let table ← c.monitors.get
    let _ ← entry "monitor" table id
    return { c with monitors := .value (table.erase id) }

/-- Changes the monitor under a key, which stays where it is even if its identifier changes. -/
def updateMonitor (id : Int64) (f : Monitor → Monitor) : Access Unit :=
  update fun c => do
    let table ← c.monitors.get
    let m ← entry "monitor" table id
    return { c with monitors := .value (table.insert id (f m)) }

/-- The tag table. -/
def tagTable (s : Store) : Except Error (IdMap Tag) := do
  (← s.contents).tags.get

/-- All tags, by ascending identifier. -/
def tags (s : Store) : Except Error (List Tag) :=
  s.tagTable.map (·.values)

/-- The tag with an identifier. -/
def tag (s : Store) (id : Int64) : Except Error Tag := do
  entry "tag" (← s.tagTable) id

/-- Replaces all tags; of two with one identifier the later one stays. -/
def setTags (tags : List Tag) : Access Unit :=
  write fun c => { c with tags := .value (tags.foldl (fun table t => table.insert t.id t) ∅) }

/-- Puts a tag under its own identifier. -/
def setTag (t : Tag) : Access Unit :=
  write fun c => { c with tags := .value ((c.tags.getD ∅).insert t.id t) }

/-- Takes out the tag with an identifier, if there is one. -/
def deleteTag (id : Int64) : Access Unit :=
  write fun c => { c with tags := c.tags.map (·.erase id) }

/-- Replaces the whole monitor table and notes that a table was received. -/
def receiveMonitors (name : String) (table : IdMap Monitor) : Access Unit :=
  write fun c => { c with monitors := .value table, seen := c.seen.mark name }

end UptimeSync.Store
