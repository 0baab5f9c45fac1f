import UptimeSync.Proofs.History.Window
import UptimeSync.Store.Queue

namespace UptimeSync.Queue

variable {α : Type}

theorem eq_of_toList {p q : Queue α} (hitems : p.toList = q.toList) : p = q :=
  congrArg ofList hitems

theorem toList_trim_eq_rtake (q : Queue α) (n : Nat) : (q.trim n).toList = q.toList.rtake n :=
  q.toList_trim n

theorem trim?_eq_some_trim (q : Queue α) (n : Nat) : q.trim? n = some (q.trim n) :=
  (Option.some_get _).symm

/-- How many items are too many is an exact difference whenever it is asked for, and as many can be drained. -/
theorem exists_surplus {q : Queue α} {n : Nat} (hmany : n < q.size) :
    ∃ count, surplus? q.size n = some count ∧ count + n = q.size ∧ q.drain? count = some (q.trim n) := by
  have hsurplus : surplus? q.size n = some (q.size - n) := if_pos hmany.le
  have htrim := q.trim?_eq_some_trim n
  rw [trim?, if_neg (Nat.not_le.mpr hmany), hsurplus] at htrim
  exact ⟨_, hsurplus, Nat.sub_add_cancel hmany.le, htrim⟩

theorem size_trim (q : Queue α) (n : Nat) : (q.trim n).size = min n q.size := by
  have hlength : (q.trim n).size = (q.toList.drop (q.size - n)).length := congrArg List.length (q.toList_trim n)
  have hsize : q.toList.length = q.size := rfl
  rw [hlength, List.length_drop, hsize]
  omega

theorem trim_trim (q : Queue α) (a b : Nat) : (q.trim a).trim b = q.trim (min a b) := by
  apply eq_of_toList
  have hdropped : q.size - a + (min a q.size - b) = q.size - min a b := by omega
  rw [toList_trim, toList_trim, toList_trim, size_trim, List.drop_drop, hdropped]

theorem toList_pop (q : Queue α) : q.pop.1.toList ++ q.pop.2.toList = q.toList := by
  obtain ⟨items⟩ := q
  cases items <;> rfl

/-- Only an empty queue has no item to give. -/
theorem pop_eq_none_iff (q : Queue α) : q.pop.1 = none ↔ q.toList = [] :=
  List.head?_eq_none_iff

theorem toList_foldl_push (q : Queue α) (batch : List α) : (batch.foldl push q).toList = q.toList ++ batch := by
  induction batch generalizing q with
  | nil => exact (List.append_nil _).symm
  | cons item rest ih => rw [List.foldl_cons, ih, toList_push, List.append_assoc, List.singleton_append]

/-- It makes no difference that a queue was trimmed before items were added if it is trimmed after them. -/
theorem trim_foldl_push_trim (q : Queue α) (n : Nat) (batch : List α) :
    (batch.foldl push (q.trim n)).trim n = (batch.foldl push q).trim n := by
  apply eq_of_toList
  rw [toList_trim_eq_rtake, toList_foldl_push, toList_trim_eq_rtake, Delivery.rtake_rtake_append,
    toList_trim_eq_rtake, toList_foldl_push]

/-- Items that are trimmed one by one as they come are trimmed as if all had come at once. Without any item there
is nothing that would trim what is there. -/
theorem foldl_push_trim {batch : List α} (hbatch : batch ≠ []) (q : Queue α) (n : Nat) :
    batch.foldl (fun q item => (q.push item).trim n) q = (batch.foldl push q).trim n := by
  -- From the end of the batch, before whose last item the queue may as well have been trimmed.
  induction batch using List.reverseRecOn with
  | nil => exact absurd rfl hbatch
  | append_singleton earlier last ih =>
    rw [List.foldl_concat, List.foldl_concat]
    by_cases hearlier : earlier = []
    · rw [hearlier]
      rfl
    · rw [ih hearlier]
      exact trim_foldl_push_trim _ n [last]

/-- What can be done to a queue. A snapshot is taken of all its items. -/
inductive Operation (α : Type) where
  | push (item : α)
  | pop
  | trim (n : Nat)
  | replace (items : List α)
  | clear
  | snapshot

/-- What operations alone tell about a queue: the items it was last filled with and those pushed since, the
oldest first, how many of them have left it, and what the pops have answered, the latest last. -/
structure Ledger (α : Type) where
  arrived : List α
  departed : Nat := 0
  answers : List (Option α) := []

/-- The ledger of a queue that is made from a list. -/
def Ledger.ofList (items : List α) : Ledger α where
  arrived := items

/-- Books one operation. A pop takes the first item that has not left yet, if there is one; a trim lets all items
leave but the last ones. -/
def Ledger.next (l : Ledger α) : Operation α → Ledger α
  | .push item => { l with arrived := l.arrived ++ [item] }
  | .pop =>
    { l with
      departed := min (l.departed + 1) l.arrived.length
      answers := l.answers ++ [l.arrived[l.departed]?] }
  | .trim n => { l with departed := max l.departed (l.arrived.length - n) }
  | .replace items => { l with arrived := items, departed := 0 }
  | .clear => { l with arrived := [], departed := 0 }
  | .snapshot => l

def Ledger.after (l : Ledger α) (ops : List (Operation α)) : Ledger α :=
  ops.foldl next l

/-- A queue in use: what its pops have answered and the snapshots taken of it, the latest last. -/
structure Usage (α : Type) where
  queue : Queue α
  answers : List (Option α) := []
  snapshots : List (List α) := []

namespace Usage

def ofList (items : List α) : Usage α where
  queue := .ofList items

def next (u : Usage α) : Operation α → Usage α
  | .push item => { u with queue := u.queue.push item }
  | .pop =>
    let (answer, queue) := u.queue.pop
    { u with queue, answers := u.answers ++ [answer] }
  | .trim n => { u with queue := u.queue.trim n }
  | .replace items => { u with queue := u.queue.replace items }
  | .clear => { u with queue := u.queue.clear }
  | .snapshot => { u with snapshots := u.snapshots ++ [u.queue.toList] }

def after (u : Usage α) (ops : List (Operation α)) : Usage α :=
  ops.foldl next u

/-- Holds of a queue from which exactly those items are missing that have left it by a ledger. -/
structure Follows (u : Usage α) (l : Ledger α) : Prop where
  departed_le : l.departed ≤ l.arrived.length
  toList_eq : u.queue.toList = l.arrived.drop l.departed
  answers_eq : u.answers = l.answers

variable {u : Usage α} {l : Ledger α}

theorem follows_ofList (start : List α) : (ofList start).Follows (.ofList start) :=
  ⟨Nat.zero_le _, rfl, rfl⟩

theorem Follows.pop (hfollows : u.Follows l) : (u.next .pop).Follows (l.next .pop) := by
  refine ⟨Nat.min_le_right _ _, ?_, ?_⟩
  · change u.queue.toList.tail = l.arrived.drop (min (l.departed + 1) l.arrived.length)
    rw [hfollows.toList_eq, List.tail_drop]
    by_cases hleft : l.departed + 1 ≤ l.arrived.length
    · rw [Nat.min_eq_left hleft]
    · have hempty : l.arrived.length ≤ l.departed + 1 := Nat.le_of_not_le hleft
      rw [Nat.min_eq_right hempty, List.drop_length, List.drop_eq_nil_of_le hempty]
  · change u.answers ++ [u.queue.toList.head?] = l.answers ++ [l.arrived[l.departed]?]
    rw [hfollows.answers_eq, hfollows.toList_eq, List.head?_drop]

theorem Follows.trim (hfollows : u.Follows l) (n : Nat) : (u.next (.trim n)).Follows (l.next (.trim n)) := by
  have hle := hfollows.departed_le
  refine ⟨max_le hle (Nat.sub_le _ _), ?_, hfollows.answers_eq⟩
  change (u.queue.trim n).toList = l.arrived.drop (max l.departed (l.arrived.length - n))
  have hsize : u.queue.size = l.arrived.length - l.departed := by
    rw [← List.length_drop, ← hfollows.toList_eq]
    rfl
  have hdeparted : l.departed + (l.arrived.length - l.departed - n) = max l.departed (l.arrived.length - n) := by
    omega
  rw [toList_trim, hsize, hfollows.toList_eq, List.drop_drop, hdeparted]

theorem Follows.next (hfollows : u.Follows l) (op : Operation α) : (u.next op).Follows (l.next op) := by
  cases op with
  | push item =>
    refine ⟨?_, ?_, hfollows.answers_eq⟩
    · exact hfollows.departed_le.trans (List.length_append ▸ Nat.le_add_right _ _)
    · change (u.queue.push item).toList = (l.arrived ++ [item]).drop l.departed
      rw [toList_push, hfollows.toList_eq, List.drop_append_of_le_length hfollows.departed_le]
  | pop => exact hfollows.pop
  | trim n => exact hfollows.trim n
  | replace items => exact ⟨Nat.zero_le _, rfl, hfollows.answers_eq⟩
  | clear => exact ⟨Nat.zero_le _, rfl, hfollows.answers_eq⟩
  | snapshot => exact ⟨hfollows.departed_le, hfollows.toList_eq, hfollows.answers_eq⟩

theorem Follows.after (hfollows : u.Follows l) (ops : List (Operation α)) : (u.after ops).Follows (l.after ops) := by
  induction ops generalizing u l with
  | nil => exact hfollows
  | cons op rest ih => exact ih (hfollows.next op)

theorem snapshots_prefix_next (u : Usage α) (op : Operation α) : u.snapshots <+: (u.next op).snapshots := by
  cases op with
  | snapshot => exact List.prefix_append _ _
  | _ => exact List.prefix_rfl

theorem snapshots_prefix_after (u : Usage α) (ops : List (Operation α)) :
    u.snapshots <+: (u.after ops).snapshots := by
  induction ops generalizing u with
  | nil => exact List.prefix_rfl
  | cons op rest ih => exact (u.snapshots_prefix_next op).trans (ih (u.next op))

theorem after_append (u : Usage α) (before later : List (Operation α)) :
    u.after (before ++ later) = (u.after before).after later :=
  List.foldl_append

end Usage

/-- A queue holds the end of what has arrived, in the order of its arrival, and lacks nothing but what was popped
and trimmed off its front. A pop gives the oldest item and leaves the others, and has nothing to give only if there
is none. Trimming never fails, since it only counts the items that are too many when there are any, and keeps as
many as it is asked to, if there are as many; doing it twice is doing it once with the smaller number, and doing it
after every item of a batch is doing it once after the batch. A snapshot stays as it was taken. -/
theorem holds_end_of_arrivals {α : Type} :
    (∀ (start : List α) (ops : List (Operation α)),
      let u := (Usage.ofList start).after ops
      let l := (Ledger.ofList start).after ops
      l.departed ≤ l.arrived.length ∧ u.queue.toList = l.arrived.drop l.departed ∧ u.answers = l.answers) ∧
    (∀ q : Queue α, q.pop.1.toList ++ q.pop.2.toList = q.toList ∧ (q.pop.1 = none ↔ q.toList = [])) ∧
    (∀ (q : Queue α) (n : Nat), q.trim? n = some (q.trim n) ∧ (q.trim n).size = min n q.size ∧
      (n < q.size → ∃ count, surplus? q.size n = some count ∧ count + n = q.size ∧
        q.drain? count = some (q.trim n))) ∧
    (∀ (q : Queue α) (a b : Nat), (q.trim a).trim b = q.trim (min a b)) ∧
    (∀ (q : Queue α) (n : Nat) (batch : List α), batch ≠ [] →
      batch.foldl (fun q item => (q.push item).trim n) q = (batch.foldl push q).trim n) ∧
    ∀ (start : List α) (before later : List (Operation α)),
      let u := (Usage.ofList start).after before
      let final := (Usage.ofList start).after (before ++ .snapshot :: later)
      u.snapshots ++ [u.queue.toList] <+: final.snapshots := by
  refine ⟨fun start ops => ?_, fun q => ⟨q.toList_pop, q.pop_eq_none_iff⟩,
    fun q n => ⟨q.trim?_eq_some_trim n, q.size_trim n, exists_surplus⟩, trim_trim,
    fun q n batch hbatch => foldl_push_trim hbatch q n, fun start before later => ?_⟩
  · obtain ⟨hdeparted, hitems, hanswers⟩ := (Usage.follows_ofList start).after ops
    exact ⟨hdeparted, hitems, hanswers⟩
  · intro u final
    have hfinal : final = (u.next .snapshot).after later := Usage.after_append _ before (.snapshot :: later)
    rw [hfinal]
    exact (u.next .snapshot).snapshots_prefix_after later

/-- A queue that starts with more items than are kept is only cut down by the first item that comes, to nothing if
none are kept. The oldest item that was kept is popped first, and an empty queue has nothing to pop. A snapshot still
has what was trimmed and popped after it was taken. -/
theorem end_of_oversized_start :
    let q := ofList [1, 2, 3, 4, 5]
    let early : List (Operation Nat) := [.push 6]
    let late : List (Operation Nat) := [.trim 3, .pop, .push 7]
    let u := (Usage.ofList q.toList).after (early ++ .snapshot :: late)
    let emptied := u.next .clear |>.next .pop
    3 < q.size ∧ (∃ count, surplus? q.size 3 = some count ∧ count + 3 = 5 ∧ q.drain? count = some (q.trim 3)) ∧
      [6, 7] ≠ [] ∧ [6, 7].foldl (fun q item => (q.push item).trim 3) q = ofList [5, 6, 7] ∧
      [6, 7].foldl (fun q item => (q.push item).trim 0) q = ofList [] ∧
      u.queue.toList = [5, 6, 7] ∧ emptied.answers = [some 4, none] ∧ [[1, 2, 3, 4, 5, 6]] <+: u.snapshots := by
  intro q early late u emptied
  obtain ⟨hledger, -, htrim, -, hbatch, hsnapshots⟩ := holds_end_of_arrivals (α := Nat)
  have hmany : 3 < q.size := by decide
  refine ⟨hmany, (htrim q 3).2.2 hmany, nofun, (hbatch q 3 [6, 7] nofun).trans rfl,
    (hbatch q 0 [6, 7] nofun).trans rfl, ?_, ?_, ?_⟩
  · exact (hledger q.toList (early ++ .snapshot :: late)).2.1
  · exact (hledger q.toList (early ++ .snapshot :: late ++ [.clear, .pop])).2.2
  · exact hsnapshots q.toList early late

end UptimeSync.Queue
