import UptimeSync.Action.Inventory
import UptimeSync.Proofs.Action.Course
import UptimeSync.Proofs.Store.Access
import UptimeSync.Proofs.Store.Table

namespace UptimeSync

/-- A change that an action makes to the store after the server has confirmed it. -/
inductive Change where
  | loggedIn (loggedIn : Bool)
  | tags (tags : List Tag)
  | tag (tag : Tag)
  | dropTag (id : Int64)
  | monitor (monitor : Monitor)
  | dropMonitor (id : Int64)
  | active (id : Int64) (active : Bool)
  | dropHeartbeats (id : Int64)
  | settings (settings : Settings)

namespace Change

def access : Change → Access Unit
  | loggedIn b => Store.setLoggedIn b
  | tags ts => Store.setTags ts
  | tag t => Store.setTag t
  | dropTag id => Store.deleteTag id
  | monitor m => Store.setMonitor m
  | dropMonitor id => Store.deleteMonitor id
  | active id b => Store.updateMonitor id fun m => { m with active := b }
  | dropHeartbeats id => Store.clearHeartbeats id
  | settings x => Store.setSettings x

/-- What counts of the result of a change. A change to a monitor that is not there is no failure. -/
def pardon : Change → Except Error Unit → Except Error Unit
  | dropMonitor _ | active .. => Program.ignoreUncached
  | _ => id

def program (change : Change) : Program Unit :=
  .access change.access fun r => .done (change.pardon r)

/-- What a change makes of the contents of a store. It makes no monitor that is not there. -/
def apply : Change → Store.Contents → Store.Contents
  | loggedIn b, c => { c with loggedIn := b }
  | tags ts, c => { c with tags := .value (ts.foldl (fun table t => table.insert t.id t) ∅) }
  | tag t, c => { c with tags := .value ((c.tags.getD ∅).insert t.id t) }
  | dropTag id, c => { c with tags := c.tags.map (·.erase id) }
  | monitor m, c => { c with monitors := .value ((c.monitors.getD ∅).insert m.id m) }
  | dropMonitor id, c => { c with monitors := c.monitors.map (·.erase id) }
  | active id b, c =>
    { c with monitors := c.monitors.map (·.modify id fun m => { m with active := b }) }
  | dropHeartbeats id, c =>
    { c with
      heartbeats := c.heartbeats.map (·.erase id)
      importantHeartbeats := c.importantHeartbeats.map (·.erase id) }
  | settings x, c => { c with settings := .value x }

/-- An update of the entry of a monitor counts as a success on every open store. If the update takes
the table as it is where there is no such entry, it does not matter that it is not made. -/
theorem entry_update_open {id : Int64} {f : IdMap Monitor → Monitor → IdMap Monitor}
    {g : IdMap Monitor → IdMap Monitor} (habsent : ∀ table, table[id]? = none → g table = table)
    (hpresent : ∀ table m, table[id]? = some m → f table m = g table) (c : Store.Contents) :
    let result := (Store.update fun c => do
      let table ← c.monitors.get
      let m ← Store.entry "monitor" table id
      return { c with monitors := .value (f table m) }).on ⟨some c⟩
    result.2 = ⟨some { c with monitors := c.monitors.map g }⟩ ∧
      Program.ignoreUncached result.1 = .ok () := by
  obtain ⟨retention, seen, connected, loggedIn, autoLogin, info, settings, monitors⟩ := c
  rw [Access.on_update_open]
  cases monitors with
  | notYet => exact ⟨rfl, rfl⟩
  | value table =>
    cases hentry : table[id]? with
    | none =>
      simp [Received.get, Store.entry, hentry, bind, Except.bind, Received.map, habsent table hentry,
        Program.ignoreUncached]
    | some m =>
      simp [Received.get, Store.entry, hentry, bind, Except.bind, Received.map, pure, Except.pure,
        hpresent table m hentry, Program.ignoreUncached]

/-- On an open store every change is made and counts as a success. -/
theorem access_open (change : Change) (c : Store.Contents) :
    (change.access.on ⟨some c⟩).2 = ⟨some (change.apply c)⟩ ∧
      change.pardon (change.access.on ⟨some c⟩).1 = .ok () := by
  cases change with
  | dropMonitor id =>
    exact entry_update_open (fun _ habsent => IdMap.erase_of_absent habsent) (fun _ _ _ => rfl) c
  | active id b =>
    exact entry_update_open (fun _ habsent => IdMap.modify_of_absent habsent _)
      (fun _ _ hpresent => IdMap.insert_of_present hpresent _) c
  | _ => exact ⟨rfl, rfl⟩

theorem access_closed (change : Change) :
    (change.access.on ⟨none⟩).2 = ⟨none⟩ ∧
      change.pardon (change.access.on ⟨none⟩).1 = .error .storeClosed := by
  cases change <;> exact ⟨rfl, rfl⟩

def applyAll (changes : List Change) (c : Store.Contents) : Store.Contents :=
  changes.foldl (fun c change => change.apply c) c

/-- Makes several changes, the first one first, and gives a result if no change fails. -/
def commit {α : Type} : List Change → α → Program α
  | [], a => pure a
  | change :: rest, a => do
    change.program
    commit rest a

variable {σ α : Type}

theorem commit_cons (change : Change) (rest : List Change) (a : α) :
    commit (change :: rest) a = .access change.access fun r =>
      .done (change.pardon r) >>= fun _ => commit rest a := rfl

/-- On an open store all changes are made, in one step each. -/
theorem carriedOut_commit_open (changes : List Change) (a : α) (e : Emitter σ) (c : Store.Contents)
    (x : σ) (steps : List Course.Step) :
    (commit changes a).carriedOut e ⟨⟨some c⟩, x, steps⟩ =
      (.ok a, ⟨⟨some (applyAll changes c)⟩, x, steps ++ .replicate changes.length .accessed⟩) := by
  induction changes generalizing c steps with
  | nil =>
    rw [List.length_nil, List.replicate_zero, List.append_nil]
    rfl
  | cons change rest ih =>
    rw [commit_cons, Program.carriedOut_access, (change.access_open c).1, (change.access_open c).2,
      Program.done_ok_bind, ih]
    simp [applyAll, List.replicate_succ]

/-- On a closed store the first change fails and no other one is tried. -/
theorem carriedOut_commit_closed (changes : List Change) (a : α) (e : Emitter σ) (x : σ)
    (steps : List Course.Step) :
    (commit changes a).carriedOut e ⟨⟨none⟩, x, steps⟩ =
      if changes = [] then (.ok a, ⟨⟨none⟩, x, steps⟩)
      else (.error .storeClosed, ⟨⟨none⟩, x, steps ++ [.accessed]⟩) := by
  cases changes with
  | nil => rfl
  | cons change rest =>
    rw [commit_cons, Program.carriedOut_access, change.access_closed.1, change.access_closed.2]
    rfl

end Change
end UptimeSync
