import Mathlib.Data.List.DropRight

namespace UptimeSync

variable {α : Type}

/-- What a write does to the buffer of one monitor. -/
inductive Delivery (α : Type) where
  /-- The server's own window takes the place of all items before it. -/
  | window (items : List α)
  /-- Items are added behind the others, after which the buffer is trimmed. -/
  | batch (items : List α)
  /-- The buffer goes away. -/
  | clear

namespace Delivery

def items : Delivery α → List α
  | window items | batch items => items
  | clear => []

def isWindow : Delivery α → Bool
  | window _ => true
  | _ => false

def isBatch : Delivery α → Bool
  | batch _ => true
  | _ => false

def isClear : Delivery α → Bool
  | clear => true
  | _ => false

/-- A buffer after one more write. Nothing stands for a buffer that does not exist, which a batch
makes as if it had been empty. -/
def deliver (capacity : Nat) (buffer : Option (List α)) : Delivery α → Option (List α)
  | window items => some items
  | batch items => some ((buffer.getD [] ++ items).rtake capacity)
  | clear => none

/-- A buffer after a run of writes, trimmed as they arrive. -/
def replay (capacity : Nat) (deliveries : List (Delivery α)) : Option (List α) :=
  deliveries.foldl (deliver capacity) none

/-- The writes behind the last clear, or all of them if there is none. -/
def sinceClear (deliveries : List (Delivery α)) : List (Delivery α) :=
  deliveries.rtakeWhile (!·.isClear)

/-- The items of the last window since the last clear. There are none if there is no such window. -/
def lastWindow (deliveries : List (Delivery α)) : List α :=
  (((sinceClear deliveries).filter isWindow).getLast?.map items).getD []

/-- The batches since the last clear and the last window. -/
def laterBatches (deliveries : List (Delivery α)) : List (Delivery α) :=
  (sinceClear deliveries).rtakeWhile isBatch

def laterItems (deliveries : List (Delivery α)) : List α :=
  (laterBatches deliveries).flatMap items

/-- Trimming what was kept of a list before it grew gives the same as trimming all of it at once. -/
theorem rtake_rtake_append (n : Nat) (before after : List α) :
    (before.rtake n ++ after).rtake n = (before ++ after).rtake n := by
  simp only [List.rtake_eq_reverse_take_reverse, List.reverse_append, List.reverse_reverse]
  rw [List.take_append, List.take_append, List.take_take]
  congr 3
  omega

/-- A buffer holds nothing that was not delivered to it. -/
theorem mem_items_of_mem_replay {capacity : Nat} {deliveries : List (Delivery α)} {kept : List α}
    (hkept : replay capacity deliveries = some kept) {item : α} (hitem : item ∈ kept) :
    ∃ delivery ∈ deliveries, item ∈ delivery.items := by
  induction deliveries using List.reverseRecOn generalizing kept with
  | nil => cases hkept
  | append_singleton earlier last ih =>
    rw [replay, List.foldl_append] at hkept
    change deliver capacity (replay capacity earlier) last = some kept at hkept
    have hlast : last ∈ earlier ++ [last] := List.mem_append_right _ (List.mem_singleton_self last)
    cases last with
    | window items =>
      cases hkept
      exact ⟨_, hlast, hitem⟩
    | clear => cases hkept
    | batch items =>
      cases hkept
      have hgrown : item ∈ (replay capacity earlier).getD [] ++ items := List.mem_of_mem_drop hitem
      rcases List.mem_append.mp hgrown with hbefore | hadded
      · cases hreplay : replay capacity earlier with
        | none => simp [hreplay] at hbefore
        | some before =>
          rw [hreplay] at hbefore
          obtain ⟨delivery, hmem, hdelivered⟩ := ih hreplay hbefore
          exact ⟨delivery, List.mem_append_left _ hmem, hdelivered⟩
      · exact ⟨_, hlast, hadded⟩

theorem laterItems_eq_nil {deliveries : List (Delivery α)} (hbatches : laterBatches deliveries = []) :
    laterItems deliveries = [] := by
  rw [laterItems, hbatches, List.flatMap_nil]

theorem lastWindow_eq_nil {deliveries : List (Delivery α)} (hclear : sinceClear deliveries = []) :
    lastWindow deliveries = [] := by
  simp [lastWindow, hclear]

theorem laterBatches_eq_nil {deliveries : List (Delivery α)} (hclear : sinceClear deliveries = []) :
    laterBatches deliveries = [] := by
  simp [laterBatches, hclear]

/-- What trimming on every arrival leaves of a run of writes. A window that no batch follows is kept
whole, however long it is; once a batch follows, an empty one included, the buffer is the end of
the window and all later items together, as if it had been trimmed only once. -/
theorem replay_eq (capacity : Nat) (deliveries : List (Delivery α)) :
    replay capacity deliveries =
      if sinceClear deliveries = [] then none
      else if laterBatches deliveries = [] then some (lastWindow deliveries)
      else some ((lastWindow deliveries ++ laterItems deliveries).rtake capacity) := by
  induction deliveries using List.reverseRecOn with
  | nil => rfl
  | append_singleton earlier last ih =>
    have hstep : replay capacity (earlier ++ [last]) = deliver capacity (replay capacity earlier) last := by
      simp [replay]
    cases last with
    | window items =>
      have hsince : sinceClear (earlier ++ [.window items]) = sinceClear earlier ++ [.window items] := by
        simp [sinceClear, isClear]
      have hbatches : laterBatches (earlier ++ [.window items]) = [] := by
        simp [laterBatches, hsince, isBatch]
      have hwindow : lastWindow (earlier ++ [.window items]) = items := by
        simp [lastWindow, hsince, isWindow, Delivery.items]
      rw [hstep, hsince, hbatches, hwindow]
      simp [deliver]
    | clear =>
      have hsince : sinceClear (earlier ++ [.clear]) = [] := by
        simp [sinceClear, isClear]
      rw [hstep, hsince]
      simp [deliver]
    | batch items =>
      have hsince : sinceClear (earlier ++ [.batch items]) = sinceClear earlier ++ [.batch items] := by
        simp [sinceClear, isClear]
      have hbatches : laterBatches (earlier ++ [.batch items]) = laterBatches earlier ++ [.batch items] := by
        rw [laterBatches, hsince, List.rtakeWhile_concat_pos _ _ _ rfl, laterBatches]
      have hwindow : lastWindow (earlier ++ [.batch items]) = lastWindow earlier := by
        simp [lastWindow, hsince, isWindow]
      have hitems : laterItems (earlier ++ [.batch items]) = laterItems earlier ++ items := by
        simp [laterItems, hbatches, Delivery.items]
      rw [hstep, hsince, hbatches, hwindow, hitems, ih]
      simp only [List.append_eq_nil_iff, List.cons_ne_self, and_false, reduceIte, deliver]
      by_cases hclear : sinceClear earlier = []
      · simp [hclear, lastWindow_eq_nil, laterItems_eq_nil, laterBatches_eq_nil]
      · rw [if_neg hclear]
        by_cases hlater : laterBatches earlier = []
        · simp [hlater, laterItems_eq_nil]
        · simp only [if_neg hlater, Option.getD_some]
          rw [rtake_rtake_append, List.append_assoc]

end Delivery
end UptimeSync
