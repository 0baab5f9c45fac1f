import UptimeSync.Toml.Quoted

namespace UptimeSync.Toml

/-- The name of an entry, and the names of the tables that it lies in from the outermost one. -/
structure Key where
  parents : List String
  name : String

namespace Key

/-- The names from the outermost table to the entry itself. -/
def path (key : Key) : List String :=
  key.parents ++ [key.name]

/-- The number of names that a key stays below. -/
def lengthLimit : Nat := 80

/-- Holds of the characters that a name consists of if it is not quoted. -/
def isBareChar (c : Char) : Bool :=
  c.isAlphanum || c = '_' || c = '-'

/-- Reads one name. -/
def readName? : List Char → Option (String × List Char)
  | '"' :: rest => Quotation.basic.readLine? rest
  | '\x27' :: rest => Quotation.literal.readLine? rest
  | cs =>
    let (name, rest) := cs.span isBareChar
    if name = [] then none else some (String.ofList name, rest)

/-- Reads names with points between them and spaces around them. `fuel` bounds their number. -/
def readNames? : Nat → List Char → Option (List String × List Char)
  | 0, _ => none
  | fuel + 1, cs => do
    let (name, rest) ← readName? (skipSpaces cs)
    match skipSpaces rest with
    | '.' :: rest =>
      let (names, rest) ← readNames? fuel rest
      some (name :: names, rest)
    | rest => some ([name], rest)

/-- Reads a key and the spaces around it. -/
def read? (cs : List Char) : Option (Key × List Char) := do
  let (names, rest) ← readNames? (lengthLimit - 1) cs
  let name ← names.getLast?
  some (⟨names.dropLast, name⟩, rest)

end Key
end UptimeSync.Toml
