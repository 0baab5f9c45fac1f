import UptimeSync.Toml.Value

namespace UptimeSync.Toml

/-- A line of a document, or several lines if its value spans them. -/
inductive Statement where
  /-- The header of a table. -/
  | table (key : Key)
  /-- The header of the next one in a list of tables. -/
  | nextTable (key : Key)
  /-- An entry of the table whose header stands last before it. -/
  | entry (key : Key) (node : Node)

/-- Reads a statement without the end of its line. -/
def Statement.read? : List Char → Option (Statement × List Char)
  | '[' :: '[' :: cs => do
    let (key, rest) ← Key.read? cs
    match rest with
    | ']' :: ']' :: rest => some (.nextTable key, rest)
    | _ => none
  | '[' :: cs => do
    let (key, rest) ← Key.read? cs
    match rest with
    | ']' :: rest => some (.table key, rest)
    | _ => none
  | cs => do
    let (key, rest) ← Key.read? cs
    match rest with
    | '=' :: rest =>
      let (node, rest) ← readNode? (2 * rest.length + 1) maxDepth (skipSpaces rest)
      some (.entry key node, rest)
    | _ => none

/-- Reads statements up to the end of the text. `fuel` bounds their number. -/
def Statement.readAll? (fuel : Nat) (cs : List Char) : Option (List Statement) :=
  match skipGap false cs, fuel with
  | [], _ => some []
  | _, 0 => none
  | cs, fuel + 1 => do
    let (statement, rest) ← Statement.read? cs
    let rest ← endLine? rest
    let statements ← Statement.readAll? fuel rest
    some (statement :: statements)

/-- What the statements so far amount to: the root table, and the path of the table whose header
stands last. -/
structure Draft where
  root : Nodes := []
  current : List String := []

namespace Draft

/-- Carries out a statement. A name that is given twice, or in two roles, is refused. -/
def add? (draft : Draft) : Statement → Option Draft
  | .table key => do
    let root ← draft.root.within (Nodes.openTable key.name) key.parents
    return { root, current := key.path }
  | .nextTable key => do
    let root ← draft.root.within (Nodes.pushTable key.name) key.parents
    return { root, current := key.path }
  | .entry key node => do
    let root ← draft.root.within (Nodes.put key.name node key.parents) draft.current
    return { draft with root }

end Draft

/-- Drops a byte order mark from the front of a text. -/
def dropMark : List Char → List Char
  | '\ufeff' :: cs => cs
  | cs => cs

/-- Reads a document: the entries of its root table. -/
def read? (cs : List Char) : Option Config.Value.Entries := do
  let cs := dropMark cs
  let statements ← Statement.readAll? cs.length cs
  let draft ← statements.foldlM Draft.add? {}
  match ← Nodes.toValue? draft.root with
  | .table entries => some entries
  | _ => none

end UptimeSync.Toml
