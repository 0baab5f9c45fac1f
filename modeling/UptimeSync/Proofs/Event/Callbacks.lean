import UptimeSync.Event.Callbacks
import UptimeSync.Event.Kind

namespace UptimeSync

/-- The first of some results that is an error. -/
def firstFailure : List (Except Error Unit) → Except Error Unit
  | [] => .ok ()
  | .error e :: _ => .error e
  | .ok () :: rest => firstFailure rest

theorem firstFailure_cons (first : Except Error Unit) (rest : List (Except Error Unit)) :
    firstFailure (first :: rest) = first >>= fun _ => firstFailure rest := by
  cases first <;> rfl

namespace Callbacks

variable {α c : Type}

theorem forEvent_on (table : Callbacks c) (event : String) (callback : c) (other : String) :
    (table.on event callback).forEvent other =
      table.forEvent other ++ if event = other then [callback] else [] := by
  rw [on, forEvent, Std.ExtTreeMap.getElem?_insert]
  by_cases heq : event = other
  · subst heq
    simp
  · rw [if_neg (by simpa [Std.compare_eq_iff_eq] using heq), if_neg heq, List.append_nil]
    rfl

/-- Callbacks that are added stand behind the ones of their event, in the order in which they were
added. -/
theorem forEvent_foldl_on (event : α → String) (callback : α → c) (table : Callbacks c) (added : List α)
    (other : String) :
    (added.foldl (fun table a => table.on (event a) (callback a)) table).forEvent other =
      table.forEvent other ++ (added.filter fun a => event a = other).map callback := by
  induction added generalizing table with
  | nil => exact (List.append_nil _).symm
  | cons a rest ih =>
    rw [List.foldl_cons, ih, forEvent_on, List.append_assoc, List.filter_cons]
    by_cases heq : event a = other <;> simp [heq]

theorem runAll_cons_run {σ : Type} (run : c → StateM σ (Except Error Unit)) (callback : c) (rest : List c)
    (s : σ) :
    (runAll run (callback :: rest)).run s =
      (((run callback).run s).1 >>= fun _ => ((runAll run rest).run ((run callback).run s).2).1,
        ((runAll run rest).run ((run callback).run s).2).2) := by
  rw [runAll, StateT.run_bind]
  generalize (run callback).run s = first
  obtain ⟨answer, after⟩ := first
  cases answer <;> rfl

end Callbacks

namespace EventKind

theorem ofName?_name (kind : EventKind) : ofName? kind.name = some kind := by
  cases kind <;> decide

/-- No two kinds have one name. -/
theorem ofName?_eq_some {name : String} {kind : EventKind} : ofName? name = some kind ↔ kind.name = name := by
  constructor
  · intro hfound
    simpa using List.find?_some hfound
  · rintro rfl
    exact ofName?_name kind

theorem filter_all_eq_ofName? (name : String) :
    (all.filter fun kind => kind.name = name) = (ofName? name).toList := by
  cases hfound : ofName? name with
  | none =>
    refine List.filter_eq_nil_iff.mpr fun kind _ hname => ?_
    rw [ofName?_eq_some.mpr (of_decide_eq_true hname)] at hfound
    cases hfound
  | some kind =>
    obtain rfl := ofName?_eq_some.mp hfound
    cases kind <;> decide

end EventKind
end UptimeSync
