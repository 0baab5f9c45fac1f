import UptimeSync.Config.Value

namespace UptimeSync

/-- The runs of characters between separators; there is one more of them than separators. -/
def Text.split (separator : Char) : List Char → List (List Char)
  | [] => [[]]
  | c :: cs =>
    match split separator cs with
    | [] => [[c]]
    | first :: rest => if c = separator then [] :: first :: rest else (c :: first) :: rest

namespace Config

/-- A step from a value to a value inside it: to an entry of a table, or to an item of a list. A
negative index counts from the end. -/
inductive Step where
  | key (name : String)
  | index (i : Int64)
deriving DecidableEq

/-- The way from the root to a setting. -/
abbrev Path := List Step

/-- Why an index denotes no place in a list. -/
inductive BadIndex where
  /-- It counts from the end past the start. -/
  | beforeStart
  /-- A list that reaches so far could not be stored. -/
  | tooFar
deriving DecidableEq

/-- The text of a bad index. -/
def BadIndex.message : BadIndex → String
  | beforeStart => "attempt to subtract with overflow"
  | tooFar => "capacity overflow"

namespace Path

/-- Holds of the characters that a name in a path consists of. -/
def isNameChar (c : Char) : Bool :=
  c.isAlphanum || c = ' ' || c = '_' || c = '-'

/-- Reads an index in its opening bracket: an integer with spaces or tabs around it. -/
def readIndex? : List Char → Option Step
  | '[' :: cs =>
    let isGap := fun c => c = ' ' || c = '\t'
    let number := ((cs.dropWhile isGap).reverse.dropWhile isGap).reverse
    if number.head? = some '+' then none else (Decimal.readInt64? number).map Step.index
  | _ => none

/-- Reads a name with indices in brackets after it. Names are told apart in lower case only. -/
def readSegment? (cs : List Char) : Option Path := do
  let (name, rest) := cs.span isNameChar
  if name = [] then none
  let brackets := Text.split ']' rest
  if brackets.getLast? ≠ some [] then none
  let indices ← brackets.dropLast.mapM readIndex?
  some (Step.key (Value.lowerKey (String.ofList name)) :: indices)

/-- Reads a path: names with points between them, and indices. -/
def read? (text : String) : Option Path :=
  ((Text.split '.' text.toList).mapM readSegment?).map List.flatten

/-- The path that a key denotes. A key that is not written as one is a name by itself. -/
def ofKey (key : String) : Path :=
  (read? key).getD [Step.key (Value.lowerKey key)]

end Path

namespace Value

/-- The greatest length of a list: its items have 96 bytes each, and all of them together are
addressed by a signed word. -/
def maxLength : Nat := Int64.maxValue.toInt.toNat / 96

/-- The place that an index denotes in a list of `length` items, or behind them. -/
def position (i : Int64) (length : Nat) : Except BadIndex Nat :=
  let place := if 0 ≤ i then i.toInt else length + i.toInt
  if place < 0 then .error .beforeStart
  else if maxLength ≤ place then .error .tooFar
  else .ok place.toNat

mutual
/-- Puts a value under a key. A table is merged entry by entry into what is there, and any other
value replaces it. -/
def merge (key : String) : Value → Entries → Entries
  | table [], target =>
    if (target.lookup key).isSome then target else Keyed.insert target key (table [])
  | table (first :: rest), target =>
    let inner := ((target.lookup key).getD nil).entries
    Keyed.insert target key (table (mergeEntries (first :: rest) inner))
  | v, target => Keyed.insert target key v

/-- Merges entries into a table in their order, with their keys in lower case. -/
def mergeEntries : Entries → Entries → Entries
  | [], target => target
  | (key, v) :: rest, target => mergeEntries rest (merge (lowerKey key) v target)
end

/-- Assigns a value to a path. What stands in the way of the path is replaced: a value that is not a
table by an empty table before a name, one that is not a list by an empty list before an index. A
list is filled with nil up to the index. -/
def assign (v : Value) : Path → Value → Except BadIndex Value
  | [], _ => .ok v
  | [.key name], root => .ok (table (merge name v root.entries))
  | .key name :: path, root => do
    let inner ← assign v path ((root.entries.lookup name).getD nil)
    return table (Keyed.insert root.entries name inner)
  | .index i :: path, root => do
    let place ← position i root.items.length
    let items := root.items ++ List.replicate (place + 1 - root.items.length) nil
    let item ← assign v path (items.getD place nil)
    return list (items.set place item)

/-- Assigns each entry of a layer to the path that its key denotes. -/
def overlay (root : Value) (layer : Entries) : Except BadIndex Value :=
  layer.foldlM (fun root entry => assign entry.2 (Path.ofKey entry.1) root) root

end Value
end Config
end UptimeSync
