namespace UptimeSync

/-- A first-in first-out sequence, oldest item first. It has no capacity of its own: its owner trims
it once after an update. -/
structure Queue (α : Type) where
  items : List α := []
deriving DecidableEq

namespace Queue

variable {α : Type}

/-- The queue that holds a list's items in their order. -/
def ofList (items : List α) : Queue α := ⟨items⟩

/-- The items, oldest first. -/
def toList (q : Queue α) : List α := q.items

def size (q : Queue α) : Nat := q.items.length

def isEmpty (q : Queue α) : Bool := q.items.isEmpty

/-- Adds an item as the newest one. -/
def push (q : Queue α) (item : α) : Queue α := ⟨q.items ++ [item]⟩

/-- The oldest item. -/
def peek? (q : Queue α) : Option α := q.items.head?

/-- Takes the oldest item off. -/
def pop (q : Queue α) : Option α × Queue α := (q.items.head?, ⟨q.items.tail⟩)

/-- How many of `size` items are too many if `n` of them are kept. There is no such number if there are
fewer than `n`. -/
def surplus? (size n : Nat) : Option Nat :=
  if n ≤ size then some (size - n) else none

/-- Takes the oldest `count` items off, if there are as many. -/
def drain? (q : Queue α) (count : Nat) : Option (Queue α) :=
  if count ≤ q.size then some ⟨q.items.drop count⟩ else none

/-- The steps of trimming. Nothing is drained if there are no more than `n` items. -/
def trim? (q : Queue α) (n : Nat) : Option (Queue α) :=
  if q.size ≤ n then some q else surplus? q.size n >>= q.drain?

theorem trim?_eq (q : Queue α) (n : Nat) : q.trim? n = some ⟨q.items.drop (q.size - n)⟩ := by
  rw [trim?]
  split
  · next hfew =>
    rw [Nat.sub_eq_zero_of_le hfew, List.drop_zero]
  · next hmany =>
    rw [surplus?, if_pos (Nat.le_of_not_le hmany), Option.bind_eq_bind, Option.bind_some, drain?,
      if_pos (Nat.sub_le q.size n)]

/-- Keeps the newest `n` items, or all of them if there are fewer. -/
def trim (q : Queue α) (n : Nat) : Queue α :=
  (q.trim? n).get (by rw [trim?_eq, Option.isSome_some])

/-- Drops everything held before in favour of a list's items. -/
def replace (_ : Queue α) (items : List α) : Queue α := ofList items

def clear (_ : Queue α) : Queue α := {}

@[simp] theorem toList_ofList (items : List α) : (ofList items).toList = items := rfl

@[simp] theorem toList_push (q : Queue α) (item : α) : (q.push item).toList = q.toList ++ [item] :=
  rfl

@[simp] theorem toList_trim (q : Queue α) (n : Nat) :
    (q.trim n).toList = q.toList.drop (q.size - n) := by
  simp only [trim, trim?_eq, Option.get_some, toList]

end Queue
end UptimeSync
