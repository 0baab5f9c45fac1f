import UptimeSync.Text.Digit
import UptimeSync.Toml.Layout

namespace UptimeSync.Toml

/-- How a string is quoted: by which character, and whether a backslash escapes the next one. -/
structure Quotation where
  mark : Char
  escapes : Bool

/-- Double quotes, between which a backslash begins an escape. -/
def Quotation.basic : Quotation := ⟨'"', true⟩

/-- Single quotes, between which every character stands for itself. -/
def Quotation.literal : Quotation := ⟨'\x27', false⟩

namespace Quotation

/-- Splits the inside of a string on one line from what follows its closing mark. -/
def splitLine? (q : Quotation) : List Char → Option (List Char × List Char)
  | [] => none
  | c :: rest =>
    if c = q.mark then some ([], rest)
    else if c = '\\' ∧ q.escapes then
      match rest with
      | [] => none
      | d :: more =>
        if isPrintable d then (splitLine? q more).map fun (raw, after) => (c :: d :: raw, after)
        else none
    else if isPrintable c then (splitLine? q rest).map fun (raw, after) => (c :: raw, after)
    else none

/-- Splits the inside of a string on several lines from what follows its three closing marks. Up to
two more marks right before these belong to the string. -/
def splitLines? (q : Quotation) : List Char → Option (List Char × List Char)
  | [] => none
  | c :: rest =>
    if c = q.mark ∧ [q.mark, q.mark].isPrefixOf rest then
      let after := rest.drop 2
      let extra := (after.take 2).takeWhile (· = q.mark)
      some (extra, after.drop extra.length)
    else if c = '\\' ∧ q.escapes then
      match rest with
      | [] => none
      | d :: more => (splitLines? q more).map fun (raw, after) => (c :: d :: raw, after)
    else if isPrintable c ∨ (newline? (c :: rest)).isSome then
      (splitLines? q rest).map fun (raw, after) => (c :: raw, after)
    else none

end Quotation

/-- The character that an escape of one letter stands for. -/
def shortEscape? : Char → Option Char
  | 'b' => some '\x08'
  | 't' => some '\t'
  | 'n' => some '\n'
  | 'f' => some '\x0c'
  | 'r' => some '\r'
  | '"' => some '"'
  | '\\' => some '\\'
  | _ => none

/-- The character with a code point in hexadecimal digits. A surrogate is none. -/
def codePoint? (digits : List Char) : Option Char := do
  let n ← Text.numeral? 16 digits
  if n.isValidChar then some (Char.ofNat n) else none

/-- Resolves the escapes inside a string and writes each line end as a line feed. A backslash at the
end of a line takes with it all spaces and line ends up to the next other character; `joining` says
that the text follows such a one. -/
def unescape? (joining : Bool) : List Char → Option (List Char)
  | [] => some []
  | '\r' :: '\n' :: rest =>
    if joining then unescape? true rest else (unescape? false rest).map ('\n' :: ·)
  | '\\' :: 'u' :: a :: b :: c :: d :: rest => do
    let char ← codePoint? [a, b, c, d]
    let text ← unescape? false rest
    some (char :: text)
  | '\\' :: 'U' :: a :: b :: c :: d :: e :: f :: g :: h :: rest => do
    let char ← codePoint? [a, b, c, d, e, f, g, h]
    let text ← unescape? false rest
    some (char :: text)
  | ['\\'] => none
  | '\\' :: c :: rest =>
    match shortEscape? c with
    | some char => (unescape? false rest).map (char :: ·)
    | none =>
      if (newline? (skipSpaces (c :: rest))).isSome then unescape? true (c :: rest) else none
  | c :: rest =>
    if joining ∧ (isSpace c ∨ c = '\n') then unescape? true rest
    else (unescape? false rest).map (c :: ·)

/-- Writes each line end as a line feed. -/
def plainLines : List Char → List Char
  | '\r' :: '\n' :: rest => '\n' :: plainLines rest
  | c :: rest => c :: plainLines rest
  | [] => []

/-- The text of a string from what stands between its marks. -/
def Quotation.text? (q : Quotation) (raw : List Char) : Option String :=
  (if q.escapes then unescape? false raw else some (plainLines raw)).map String.ofList

/-- Reads the rest of a string on one line whose opening mark has been read. -/
def Quotation.readLine? (q : Quotation) (cs : List Char) : Option (String × List Char) := do
  let (raw, rest) ← q.splitLine? cs
  let text ← q.text? raw
  some (text, rest)

/-- Reads the rest of a string on several lines whose opening marks have been read. A line end right
after these is dropped. -/
def Quotation.readLines? (q : Quotation) (cs : List Char) : Option (String × List Char) := do
  let (raw, rest) ← q.splitLines? ((newline? cs).getD cs)
  let text ← q.text? raw
  some (text, rest)

/-- Reads a string of any kind. -/
def readString? : List Char → Option (String × List Char)
  | '"' :: '"' :: '"' :: rest => Quotation.basic.readLines? rest
  | '"' :: rest => Quotation.basic.readLine? rest
  | '\x27' :: '\x27' :: '\x27' :: rest => Quotation.literal.readLines? rest
  | '\x27' :: rest => Quotation.literal.readLine? rest
  | _ => none

end UptimeSync.Toml
