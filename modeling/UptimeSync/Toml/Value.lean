import UptimeSync.Toml.Moment
import UptimeSync.Toml.Number
import UptimeSync.Toml.Table

namespace UptimeSync.Toml

/-- The number of lists and tables that may be open at once inside a value. -/
def maxDepth : Nat := 79

/-- Reads a value that holds no other value. A moment is told from a number by trying it first. -/
def readScalar? : List Char → Option (Node × List Char)
  | 't' :: 'r' :: 'u' :: 'e' :: rest => some (.scalar (.flag true), rest)
  | 'f' :: 'a' :: 'l' :: 's' :: 'e' :: rest => some (.scalar (.flag false), rest)
  | cs =>
    match readString? cs, readMoment? cs with
    | some (text, rest), _ => some (.scalar (.text text), rest)
    | none, some (moment, rest) => some (.moment moment, rest)
    | none, none => (readNumber? cs).map fun (number, rest) => (.scalar number, rest)

/-- The table with the given entries, each under the points of its key. -/
def inlineTable? (entries : List (Key × Node)) : Option Node :=
  (entries.foldlM (fun nodes entry => Nodes.put entry.1.name entry.2 entry.1.parents nodes) []).map
    (Node.table .inline)

mutual
/-- Reads one value. `depth` is the number of lists and tables that may still be opened, `fuel` the
number of further steps. -/
def readNode? (fuel depth : Nat) (cs : List Char) : Option (Node × List Char) :=
  match fuel with
  | 0 => none
  | fuel + 1 =>
    match cs, depth with
    | '[' :: rest, depth + 1 =>
      (readItems? fuel depth rest).map fun (items, rest) => (.list items, rest)
    | '\x7b' :: rest, depth + 1 =>
      match skipSpaces rest with
      | '\x7d' :: rest => some (.table .inline [], rest)
      | rest => do
        let (entries, rest) ← readEntries? fuel depth rest
        let table ← inlineTable? entries
        some (table, rest)
    | _, _ => readScalar? cs

/-- Reads the items of a list and its closing bracket. The last item may be followed by a comma. -/
def readItems? (fuel depth : Nat) (cs : List Char) : Option (List Node × List Char) :=
  match fuel with
  | 0 => none
  | fuel + 1 =>
    match skipGap false cs with
    | ']' :: rest => some ([], rest)
    | cs => do
      let (item, rest) ← readNode? fuel depth cs
      match skipGap false rest with
      | ']' :: rest => some ([item], rest)
      | ',' :: rest =>
        let (items, rest) ← readItems? fuel depth rest
        some (item :: items, rest)
      | _ => none

/-- Reads the entries of an inline table that has at least one, and its closing brace. -/
def readEntries? (fuel depth : Nat) (cs : List Char) :
    Option (List (Key × Node) × List Char) :=
  match fuel with
  | 0 => none
  | fuel + 1 => do
    let (key, rest) ← Key.read? cs
    match rest with
    | '=' :: rest =>
      let (node, rest) ← readNode? fuel depth (skipSpaces rest)
      match skipSpaces rest with
      | '\x7d' :: rest => some ([(key, node)], rest)
      | ',' :: rest =>
        let (entries, rest) ← readEntries? fuel depth rest
        some ((key, node) :: entries, rest)
      | _ => none
    | _ => none
end

end UptimeSync.Toml
