import UptimeSync.Config.Value
import UptimeSync.Toml.Key
import UptimeSync.Toml.Moment

namespace UptimeSync.Toml

/-- How a table came to be: by a header of its own, as the parent of another header's table, by the
points in an entry's key, or as a whole between braces. -/
inductive Origin where
  | header
  | implied
  | dotted
  | inline
deriving DecidableEq

/-- What a name in a document stands for. Of a list of tables that headers have begun only the last
one may still be added to. -/
inductive Node where
  | scalar (v : Config.Value)
  | moment (text : String)
  | list (items : List Node)
  | table (origin : Origin) (entries : List (String × Node))
  | tables (earlier : List (List (String × Node))) (last : List (String × Node))

/-- The entries of a table, in the order in which the document gives them. -/
abbrev Nodes := List (String × Node)

namespace Nodes

/-- Changes the table that a header reaches under a name, adding it if the name is new. -/
def enter (change : Nodes → Option Nodes) (name : String) (nodes : Nodes) : Option Nodes := do
  let node ← match nodes.lookup name with
    | none => (change []).map (Node.table .implied)
    | some (.table origin entries) =>
      if origin = .inline then none else (change entries).map (Node.table origin)
    | some (.tables earlier last) => (change last).map (Node.tables earlier)
    | some _ => none
  return Keyed.insert nodes name node

/-- Changes the table that a header reaches under a list of names. -/
def within (change : Nodes → Option Nodes) : List String → Nodes → Option Nodes
  | [], nodes => change nodes
  | name :: path, nodes => nodes.enter (within change path) name

/-- Opens a table by a header. It may have been implied before, but nothing else may have its
name. -/
def openTable (name : String) (nodes : Nodes) : Option Nodes :=
  match nodes.lookup name with
  | none => some (Keyed.insert nodes name (.table .header []))
  | some (.table .implied entries) => some (Keyed.insert nodes name (.table .header entries))
  | some _ => none

/-- Adds a table to a list of them, which is begun if the name is new. -/
def pushTable (name : String) (nodes : Nodes) : Option Nodes :=
  match nodes.lookup name with
  | none => some (Keyed.insert nodes name (.tables [] []))
  | some (.tables earlier last) => some (Keyed.insert nodes name (.tables (earlier ++ [last]) []))
  | some _ => none

/-- Adds an entry under the points of its key. They reach into no table that has a header of its
own, and the innermost table has to have come from points. -/
def put (name : String) (node : Node) : List String → Nodes → Option Nodes
  | [], nodes =>
    if (nodes.lookup name).isSome then none else some (Keyed.insert nodes name node)
  | parent :: parents, nodes => do
    let inner ← match nodes.lookup parent with
      | none => (put name node parents []).map (Node.table .dotted)
      | some (.table origin entries) =>
        if origin = .dotted ∨ (origin = .implied ∧ parents ≠ []) then
          (put name node parents entries).map (Node.table origin)
        else none
      | some (.tables earlier last) =>
        if parents ≠ [] then (put name node parents last).map (Node.tables earlier) else none
      | some _ => none
    return Keyed.insert nodes parent inner

end Nodes

/-- The key that stands first in a table which spells out a moment. -/
def momentKey : String := "$__toml_private_datetime"

/-- The moment that the value under `momentKey` spells out. -/
def Node.spelledMoment? : Node → Option Config.Value
  | .scalar (.text text) => (rereadMoment? text).map .text
  | _ => none

mutual
/-- The value that a node stands for. A moment stands for its text. -/
def Node.toValue? : Node → Option Config.Value
  | .scalar v => some v
  | .moment text => some (.text text)
  | .list items => (Node.listValues? items).map .list
  | .table _ nodes => Nodes.toValue? nodes
  | .tables earlier last => do
    let earlier ← Nodes.listValues? earlier
    let last ← Nodes.toValue? last
    some (.list (earlier ++ [last]))

/-- The values that the items of a list stand for. -/
def Node.listValues? : List Node → Option (List Config.Value)
  | [] => some []
  | node :: rest => do
    let v ← node.toValue?
    let values ← Node.listValues? rest
    some (v :: values)

/-- The value that a table stands for. One that begins with `momentKey` is a moment, whatever else
it holds. -/
def Nodes.toValue? : List (String × Node) → Option Config.Value
  | [] => some (.table [])
  | (name, node) :: rest =>
    if name = momentKey then node.spelledMoment?
    else do
      let v ← node.toValue?
      let entries ← Nodes.entryValues? rest
      some (.table ((name, v) :: entries))

/-- The entries that the nodes of a table stand for. -/
def Nodes.entryValues? : List (String × Node) → Option Config.Value.Entries
  | [] => some []
  | (name, node) :: rest => do
    let v ← node.toValue?
    let entries ← Nodes.entryValues? rest
    some ((name, v) :: entries)

/-- The values that a list of tables stands for. -/
def Nodes.listValues? : List (List (String × Node)) → Option (List Config.Value)
  | [] => some []
  | nodes :: rest => do
    let v ← Nodes.toValue? nodes
    let values ← Nodes.listValues? rest
    some (v :: values)
end

end UptimeSync.Toml
