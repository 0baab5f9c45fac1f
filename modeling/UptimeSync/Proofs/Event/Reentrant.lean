import Mathlib.Data.Finset.Card
import Mathlib.Data.List.Induction
import UptimeSync.Event.Listener
import UptimeSync.Proofs.Event.Callbacks

namespace UptimeSync

namespace Callbacks

variable {c σ : Type}

/-- The table in which some callbacks were registered, the first one first. -/
def ofList (entries : List (String × c)) : Callbacks c :=
  entries.foldl (fun table entry => table.on entry.1 entry.2) ∅

/-- The callbacks for an event among some that were registered. -/
def named (event : String) (entries : List (String × c)) : List c :=
  (entries.filter fun entry => entry.1 = event).map Prod.snd

theorem named_append (event : String) (first later : List (String × c)) :
    named event (first ++ later) = named event first ++ named event later := by
  simp [named]

theorem ofList_append (first later : List (String × c)) :
    ofList (first ++ later) = later.foldl (fun table entry => table.on entry.1 entry.2) (ofList first) :=
  List.foldl_append

theorem contains_on (table : Callbacks c) (event : String) (callback : c) (other : String) :
    (table.on event callback).contains other = true ↔ event = other ∨ table.contains other = true := by
  simp [contains, on, Std.ExtTreeMap.contains_insert]

theorem size_on (table : Callbacks c) (event : String) (callback : c) :
    (table.on event callback).size = if table.contains event = true then table.size else table.size + 1 := by
  simp [contains, on, size, Std.ExtTreeMap.size_insert]

theorem forEvent_ofList (entries : List (String × c)) (event : String) :
    (ofList entries).forEvent event = named event entries := by
  have hempty : (∅ : Callbacks c).forEvent event = [] := rfl
  rw [ofList, forEvent_foldl_on, hempty, List.nil_append]
  rfl

theorem contains_ofList (entries : List (String × c)) (event : String) :
    (ofList entries).contains event = true ↔ event ∈ entries.map Prod.fst := by
  induction entries using List.reverseRecOn with
  | nil =>
    have hempty : (ofList ([] : List (String × c))).contains event = false := rfl
    simp [hempty]
  | append_singleton earlier entry ih =>
    have hlast : ofList (earlier ++ [entry]) = (ofList earlier).on entry.1 entry.2 := ofList_append ..
    rw [hlast, contains_on, ih]
    simp [eq_comm, or_comm]

/-- A table has an entry for each name that a callback was registered under, however many callbacks it has. -/
theorem size_ofList (entries : List (String × c)) :
    (ofList entries).size = (entries.map Prod.fst).toFinset.card := by
  induction entries using List.reverseRecOn with
  | nil => rfl
  | append_singleton earlier entry ih =>
    have hlast : ofList (earlier ++ [entry]) = (ofList earlier).on entry.1 entry.2 := ofList_append ..
    have hnames : ((earlier ++ [entry]).map Prod.fst).toFinset =
        insert entry.1 (earlier.map Prod.fst).toFinset := by
      ext name
      simp
    rw [hlast, size_on, ih, hnames]
    by_cases hknown : entry.1 ∈ earlier.map Prod.fst
    · rw [if_pos ((contains_ofList ..).mpr hknown), Finset.insert_eq_of_mem (List.mem_toFinset.mpr hknown)]
    · rw [if_neg (mt (contains_ofList ..).mp hknown),
        Finset.card_insert_of_notMem (mt List.mem_toFinset.mp hknown)]

/-- How callbacks behave when they run: what a callback answers, which callbacks it registers, and what it makes
of the rest of the world. All of it may depend on the arguments, on the table as it is then, and on the world. -/
structure Behaviour (c σ : Type) where
  answer : c → List Json → Callbacks c → σ → Except Error Unit
  registers : c → List Json → Callbacks c → σ → List (String × c)
  leaves : c → List Json → Callbacks c → σ → σ

/-- One run of a callback, with what it answered and what it registered. -/
structure Run (c : Type) where
  callback : c
  args : List Json
  answer : Except Error Unit
  added : List (String × c)

end Callbacks

open Callbacks

/-- A table in use, with every registration in it and every run of a callback so far, in order. -/
structure Switchboard (c σ : Type) where
  world : σ
  table : Callbacks c := ∅
  registered : List (String × c) := []
  runs : List (Run c) := []

namespace Switchboard

variable {c σ : Type}

def register (s : Switchboard c σ) (event : String) (callback : c) : Switchboard c σ :=
  { s with table := s.table.on event callback, registered := s.registered ++ [(event, callback)] }

/-- Runs a callback, which registers further callbacks meanwhile. -/
def call (b : Behaviour c σ) (callback : c) (args : List Json) :
    StateM (Switchboard c σ) (Except Error Unit) := fun s =>
  let answer := b.answer callback args s.table s.world
  let added := b.registers callback args s.table s.world
  let after := added.foldl (fun s entry => s.register entry.1 entry.2) s
  (answer, { after with
    world := b.leaves callback args s.table s.world
    runs := s.runs ++ [⟨callback, args, answer, added⟩] })

/-- An event arrives. -/
def dispatch (b : Behaviour c σ) (event : String) (args : List Json) :
    StateM (Switchboard c σ) (Except Error Unit) := do
  (← get).table.dispatch (call b) event args

/-- What is done with a table: a callback is registered, or an event arrives. -/
inductive Turn (c : Type) where
  | on (event : String) (callback : c)
  | dispatch (event : String) (args : List Json)

def next (b : Behaviour c σ) (s : Switchboard c σ) : Turn c → Switchboard c σ
  | .on event callback => s.register event callback
  | .dispatch event args => ((dispatch b event args).run s).2

def after (b : Behaviour c σ) (s : Switchboard c σ) (turns : List (Turn c)) : Switchboard c σ :=
  turns.foldl (next b) s

/-- Holds of a table in use before and after some callbacks were registered in it and some were run. -/
structure Grows (s : Switchboard c σ) (added : List (String × c)) (ran : List (Run c))
    (after : Switchboard c σ) : Prop where
  registered : after.registered = s.registered ++ added
  runs : after.runs = s.runs ++ ran
  table : s.table = ofList s.registered → after.table = ofList after.registered

variable {b : Behaviour c σ} {s between last : Switchboard c σ}

theorem Grows.refl (s : Switchboard c σ) : s.Grows [] [] s :=
  ⟨(List.append_nil _).symm, (List.append_nil _).symm, id⟩

theorem Grows.trans {added more : List (String × c)} {ran further : List (Run c)}
    (hfirst : s.Grows added ran between) (hrest : between.Grows more further last) :
    s.Grows (added ++ more) (ran ++ further) last := by
  refine ⟨?_, ?_, hrest.table ∘ hfirst.table⟩
  · rw [hrest.registered, hfirst.registered, List.append_assoc]
  · rw [hrest.runs, hfirst.runs, List.append_assoc]

theorem grows_register (s : Switchboard c σ) (event : String) (callback : c) :
    s.Grows [(event, callback)] [] (s.register event callback) := by
  refine ⟨rfl, (List.append_nil _).symm, fun htable => ?_⟩
  have hlast : ofList (s.registered ++ [(event, callback)]) = (ofList s.registered).on event callback :=
    ofList_append ..
  rw [register, hlast, htable]

theorem grows_registerAll (s : Switchboard c σ) (added : List (String × c)) :
    s.Grows added [] (added.foldl (fun s entry => s.register entry.1 entry.2) s) := by
  induction added generalizing s with
  | nil => exact .refl s
  | cons entry rest ih => exact (s.grows_register entry.1 entry.2).trans (ih _)

/-- A callback that runs is noted as having run, once, and its registrations come behind the ones before. -/
theorem grows_call (b : Behaviour c σ) (callback : c) (args : List Json) (s : Switchboard c σ) :
    let called := (call b callback args).run s
    ∃ added, s.Grows added [⟨callback, args, called.1, added⟩] called.2 := by
  have hadded := s.grows_registerAll (b.registers callback args s.table s.world)
  exact ⟨_, hadded.registered, rfl, hadded.table⟩

/-- Callbacks run one after the other, once each and all of them, whatever they answer and whatever they register
meanwhile. -/
theorem grows_runAll (b : Behaviour c σ) (args : List Json) (callbacks : List c) (s : Switchboard c σ) :
    let run := (runAll (call b · args) callbacks).run s
    ∃ ran, s.Grows (ran.flatMap Run.added) ran run.2 ∧
      ran.map (fun r => (r.callback, r.args)) = callbacks.map (·, args) ∧
      run.1 = firstFailure (ran.map Run.answer) := by
  induction callbacks generalizing s with
  | nil => exact ⟨[], .refl s, rfl, rfl⟩
  | cons callback rest ih =>
    let called := (call b callback args).run s
    obtain ⟨added, hfirst⟩ := grows_call b callback args s
    obtain ⟨ran, hrest, hran, hanswer⟩ := ih called.2
    have hall := hfirst.trans hrest
    rw [runAll_cons_run]
    refine ⟨⟨callback, args, called.1, added⟩ :: ran, hall, ?_, ?_⟩
    · rw [List.map_cons, hran, List.map_cons]
    · rw [List.map_cons, firstFailure_cons, ← hanswer]

theorem grows_dispatch (b : Behaviour c σ) (event : String) (args : List Json) (s : Switchboard c σ) :
    let dispatched := (dispatch b event args).run s
    ∃ ran, s.Grows (ran.flatMap Run.added) ran dispatched.2 ∧
      ran.map (fun r => (r.callback, r.args)) = (s.table.forEvent event).map (·, args) ∧
      dispatched.1 = firstFailure (ran.map Run.answer) :=
  grows_runAll b args (s.table.forEvent event) s

theorem grows_next (b : Behaviour c σ) (s : Switchboard c σ) (turn : Turn c) :
    ∃ added ran, s.Grows added ran (next b s turn) := by
  cases turn with
  | on event callback => exact ⟨_, _, s.grows_register event callback⟩
  | dispatch event args =>
    obtain ⟨ran, hgrows, -⟩ := grows_dispatch b event args s
    exact ⟨_, ran, hgrows⟩

theorem grows_after (b : Behaviour c σ) (s : Switchboard c σ) (turns : List (Turn c)) :
    ∃ added ran, s.Grows added ran (after b s turns) := by
  induction turns generalizing s with
  | nil => exact ⟨[], [], .refl s⟩
  | cons turn rest ih =>
    obtain ⟨first, ran, hfirst⟩ := grows_next b s turn
    obtain ⟨more, further, hrest⟩ := ih (next b s turn)
    exact ⟨_, _, hfirst.trans hrest⟩

/-- A table that was empty at first holds what was registered in it, and nothing else. -/
theorem table_after (b : Behaviour c σ) (world : σ) (turns : List (Turn c)) :
    let s := after b { world } turns
    s.table = ofList s.registered := by
  obtain ⟨added, ran, hgrows⟩ := grows_after b { world } turns
  exact hgrows.table rfl

/-- Callbacks that are added stand behind the ones of their event. -/
theorem Grows.forEvent {added : List (String × c)} {ran : List (Run c)} (hgrows : s.Grows added ran last)
    (htable : s.table = ofList s.registered) (event : String) :
    last.table.forEvent event = s.table.forEvent event ++ named event added := by
  rw [hgrows.table htable, forEvent_ofList, hgrows.registered, named_append, htable, forEvent_ofList]

/-- A table of callbacks that register further callbacks while they run. It holds every callback that was ever
registered, once for each registration, in the order of registration. An event runs the callbacks that it has when
it arrives, all of them, once each and with its arguments; the first failure among their answers is the result.
What they register meanwhile stands behind the others from then on. -/
theorem dispatch_amid_registrations (b : Behaviour c σ) (world : σ) (turns : List (Turn c)) :
    let s := after b { world } turns
    let names := (s.registered.map Prod.fst).toFinset
    (∀ event, s.table.forEvent event = named event s.registered) ∧
    (∀ event, s.table.contains event = true ↔ event ∈ names) ∧
    s.table.size = names.card ∧
    (∀ event args,
      let dispatched := (dispatch b event args).run s
      ∃ ran, dispatched.2.runs = s.runs ++ ran ∧
        ran.map (fun r => (r.callback, r.args)) = (s.table.forEvent event).map (·, args) ∧
        dispatched.1 = firstFailure (ran.map Run.answer) ∧
        dispatched.2.registered = s.registered ++ ran.flatMap Run.added) ∧
    ∀ later, ∃ added,
      (after b s later).registered = s.registered ++ added ∧
      ∀ event, (after b s later).table.forEvent event = s.table.forEvent event ++ named event added := by
  intro s names
  have htable : s.table = ofList s.registered := table_after b world turns
  refine ⟨fun event => ?_, fun event => ?_, ?_, fun event args => ?_, fun later => ?_⟩
  · rw [htable, forEvent_ofList]
  · rw [htable, contains_ofList, List.mem_toFinset]
  · rw [htable, size_ofList]
  · obtain ⟨ran, hgrows, hran, hanswer⟩ := grows_dispatch b event args s
    exact ⟨ran, hgrows.runs, hran, hanswer, hgrows.registered⟩
  · obtain ⟨added, ran, hgrows⟩ := grows_after b s later
    exact ⟨added, hgrows.registered, hgrows.forEvent htable⟩

end Switchboard

namespace Listeners

/-- The behaviour of listeners: a listener always registers the same listeners and gives the same answer. -/
def behaviour : Behaviour Listener (List Listener.Call) where
  answer l _ _ _ := l.answer
  registers l _ _ _ := l.adds
  leaves l args _ calls := calls ++ [⟨l.label, args⟩]

/-- The listeners of a table in use, and their runs. -/
def ofSwitchboard (s : Switchboard Listener (List Listener.Call)) : Listeners := ⟨s.table, s.world⟩

theorem ofSwitchboard_registerAll (s : Switchboard Listener (List Listener.Call))
    (added : List (String × Listener)) :
    ofSwitchboard (added.foldl (fun s entry => s.register entry.1 entry.2) s) =
      ⟨added.foldl (fun table entry => table.on entry.1 entry.2) s.table, s.world⟩ := by
  induction added generalizing s with
  | nil => rfl
  | cons entry rest ih => exact ih (s.register entry.1 entry.2)

theorem run_ofSwitchboard (l : Listener) (args : List Json) (s : Switchboard Listener (List Listener.Call)) :
    let called := (Switchboard.call behaviour l args).run s
    (run l args).run (ofSwitchboard s) = (called.1, ofSwitchboard called.2) := by
  have hadded := congrArg Listeners.callbacks (ofSwitchboard_registerAll s l.adds)
  exact Prod.ext rfl (congrArg (Listeners.mk · _) hadded.symm)

/-- Listeners are run as callbacks of that behaviour are. -/
theorem dispatch_ofSwitchboard (event : String) (args : List Json)
    (s : Switchboard Listener (List Listener.Call)) :
    let dispatched := (Switchboard.dispatch behaviour event args).run s
    (dispatch event args).run (ofSwitchboard s) = (dispatched.1, ofSwitchboard dispatched.2) := by
  change (runAll (run · args) (s.table.forEvent event)).run (ofSwitchboard s) =
    let run := (runAll (Switchboard.call behaviour · args) (s.table.forEvent event)).run s
    (run.1, ofSwitchboard run.2)
  induction s.table.forEvent event generalizing s with
  | nil => rfl
  | cons l rest ih => rw [runAll_cons_run, runAll_cons_run, run_ofSwitchboard, ih]

end Listeners
end UptimeSync
