import UptimeSync.Json.Number
import UptimeSync.Text.Digit

namespace UptimeSync.Json

private def isSpace (c : Char) : Bool :=
  c = ' ' || c = '\n' || c = '\t' || c = '\r'

private def skipSpace (cs : List Char) : List Char :=
  cs.dropWhile isSpace

/-- The 16-bit unit that four hexadecimal digits denote. -/
private def codeUnit? (digits : List Char) : Option Nat :=
  Text.numeral? 16 digits

private def shortEscape? : Char → Option Char
  | '"' => some '"'
  | '\\' => some '\\'
  | '/' => some '/'
  | 'b' => some '\x08'
  | 'f' => some '\x0c'
  | 'n' => some '\n'
  | 'r' => some '\r'
  | 't' => some '\t'
  | _ => none

/-- Splits the inside of a string, escapes still in it, from what follows its closing quote. A
control character must be escaped. -/
private def splitString? : List Char → Option (List Char × List Char)
  | [] => none
  | '"' :: rest => some ([], rest)
  | '\\' :: c :: rest => (splitString? rest).map fun (raw, after) => ('\\' :: c :: raw, after)
  | c :: rest =>
    if c < ' ' then none
    else (splitString? rest).map fun (raw, after) => (c :: raw, after)

/-- Resolves the escapes inside a string. Two surrogate units in a row denote one character; a
surrogate that stands alone denotes none. -/
private def unescape? : List Char → Option (List Char)
  | [] => some []
  | '\\' :: 'u' :: a :: b :: c :: d :: rest => do
    let unit ← codeUnit? [a, b, c, d]
    if 0xD800 ≤ unit ∧ unit < 0xDC00 then
      match rest with
      | '\\' :: 'u' :: e :: f :: g :: h :: more =>
        let low ← codeUnit? [e, f, g, h]
        if 0xDC00 ≤ low ∧ low < 0xE000 then
          let text ← unescape? more
          some (Char.ofNat (0x10000 + (unit - 0xD800) * 0x400 + (low - 0xDC00)) :: text)
        else none
      | _ => none
    else if 0xDC00 ≤ unit ∧ unit < 0xE000 then none
    else
      let text ← unescape? rest
      some (Char.ofNat unit :: text)
  | '\\' :: c :: rest => do
    let char ← shortEscape? c
    let text ← unescape? rest
    some (char :: text)
  | c :: rest => (unescape? rest).map (c :: ·)

/-- Reads the rest of a string whose opening quote has been read. -/
private def readString? (cs : List Char) : Option (String × List Char) := do
  let (raw, rest) ← splitString? cs
  let text ← unescape? raw
  some (String.ofList text, rest)

mutual
/-- Reads one value. `depth` is the number of containers that may still be opened, `fuel` the
number of further steps. -/
def readValue? (fuel depth : Nat) (cs : List Char) : Option (Json × List Char) :=
  match fuel with
  | 0 => none
  | fuel + 1 =>
    match skipSpace cs with
    | 'n' :: 'u' :: 'l' :: 'l' :: rest => some (null, rest)
    | 't' :: 'r' :: 'u' :: 'e' :: rest => some (bool true, rest)
    | 'f' :: 'a' :: 'l' :: 's' :: 'e' :: rest => some (bool false, rest)
    | '"' :: rest => (readString? rest).map fun (text, rest) => (string text, rest)
    | '[' :: rest =>
      match depth with
      | 0 => none
      | depth + 1 =>
        match skipSpace rest with
        | ']' :: rest => some (array [], rest)
        | rest => (readItems? fuel depth rest).map fun (items, rest) => (array items, rest)
    | '\x7b' :: rest =>
      match depth with
      | 0 => none
      | depth + 1 =>
        match skipSpace rest with
        | '\x7d' :: rest => some (object [], rest)
        | rest => do
          let (members, rest) ← readMembers? fuel depth rest
          some (ofMembers members, rest)
    | rest => readNumber? rest

/-- Reads the items of an array that has at least one, and the closing bracket. -/
def readItems? (fuel depth : Nat) (cs : List Char) : Option (List Json × List Char) :=
  match fuel with
  | 0 => none
  | fuel + 1 => do
    let (item, rest) ← readValue? fuel depth cs
    match skipSpace rest with
    | ']' :: rest => some ([item], rest)
    | ',' :: rest =>
      let (items, rest) ← readItems? fuel depth rest
      some (item :: items, rest)
    | _ => none

/-- Reads the members of an object that has at least one, and the closing brace. -/
def readMembers? (fuel depth : Nat) (cs : List Char) : Option (Members × List Char) :=
  match fuel with
  | 0 => none
  | fuel + 1 =>
    match skipSpace cs with
    | '"' :: rest => do
      let (key, rest) ← readString? rest
      match skipSpace rest with
      | ':' :: rest =>
        let (value, rest) ← readValue? fuel depth rest
        match skipSpace rest with
        | '\x7d' :: rest => some ([(key, value)], rest)
        | ',' :: rest =>
          let (members, rest) ← readMembers? fuel depth rest
          some ((key, value) :: members, rest)
        | _ => none
      | _ => none
    | _ => none
end

/-- The number of containers that may be open at once. -/
def maxDepth : Nat := 127

/-- Reads a text that holds one JSON value and, around it, nothing but space. -/
def read? (text : String) : Option Json :=
  let cs := text.toList
  match readValue? (2 * cs.length + 2) maxDepth cs with
  | some (value, rest) => if (skipSpace rest).isEmpty then some value else none
  | none => none

end UptimeSync.Json
