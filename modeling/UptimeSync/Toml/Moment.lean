import UptimeSync.Decimal.Read

namespace UptimeSync.Toml

/-- The number of days of a month in the Gregorian calendar. -/
def daysIn (year month : Nat) : Nat :=
  if month = 2 then
    if year % 4 = 0 ∧ (year % 100 ≠ 0 ∨ year % 400 = 0) then 29 else 28
  else if month = 4 ∨ month = 6 ∨ month = 9 ∨ month = 11 then 30
  else 31

/-- Reads a day of the calendar, year first. -/
def readDate? : List Char → Option (List Char × List Char)
  | y₁ :: y₂ :: y₃ :: y₄ :: '-' :: m₁ :: m₂ :: '-' :: d₁ :: d₂ :: rest => do
    let year ← Decimal.readNatural? [y₁, y₂, y₃, y₄]
    let month ← Decimal.readNatural? [m₁, m₂]
    let day ← Decimal.readNatural? [d₁, d₂]
    if 1 ≤ month ∧ month ≤ 12 ∧ 1 ≤ day ∧ day ≤ daysIn year month then
      some ([y₁, y₂, y₃, y₄, '-', m₁, m₂, '-', d₁, d₂], rest)
    else none
  | _ => none

/-- Reads hours and minutes, up to the minute before `lastHour` ends. -/
def readClock? (lastHour : Nat) : List Char → Option (List Char × List Char)
  | h₁ :: h₂ :: ':' :: m₁ :: m₂ :: rest => do
    let hour ← Decimal.readNatural? [h₁, h₂]
    let minute ← Decimal.readNatural? [m₁, m₂]
    if hour ≤ lastHour ∧ minute ≤ 59 then some ([h₁, h₂, ':', m₁, m₂], rest) else none
  | _ => none

/-- A fraction of a second in whole nanoseconds, written without zeros at its end. -/
def secondFraction (digits : List Char) : List Char :=
  match ((digits.take 9).reverse.dropWhile (· = '0')).reverse with
  | [] => []
  | digits => '.' :: digits

/-- Reads a time of day. Its seconds may be followed by a fraction, and a leap second is counted as
second 60. -/
def readTime? (lastHour : Nat) (cs : List Char) : Option (List Char × List Char) := do
  let (clock, rest) ← readClock? lastHour cs
  match rest with
  | ':' :: s₁ :: s₂ :: rest =>
    let second ← Decimal.readNatural? [s₁, s₂]
    if 60 < second then none
    let time := clock ++ [':', s₁, s₂]
    match rest with
    | '.' :: more =>
      let (digits, after) := Decimal.spanDigits more
      if digits = [] then none else some (time ++ secondFraction digits, after)
    | _ => some (time, rest)
  | _ => none

/-- Reads the offset from universal time, if there is one. No offset is written with a plus sign
before its zeros. -/
def readOffset (cs : List Char) : List Char × List Char :=
  match cs with
  | 'Z' :: rest | 'z' :: rest => (['Z'], rest)
  | sign :: rest =>
    match readClock? 23 rest with
    | some (clock, after) =>
      if clock = ['0', '0', ':', '0', '0'] ∧ sign = '-' then ('+' :: clock, after)
      else if sign = '+' ∨ sign = '-' then (sign :: clock, after)
      else ([], cs)
    | none => ([], cs)
  | [] => ([], [])

/-- Reads a day, a time of day, or both with or without an offset. The text that it stands for is
written with a `T` between the day and the time. -/
def readMoment? (cs : List Char) : Option (String × List Char) :=
  match readDate? cs with
  | none => (readTime? 23 cs).map fun (time, rest) => (String.ofList time, rest)
  | some (date, rest) =>
    let time := match rest with
      | c :: more => if c = 'T' ∨ c = 't' ∨ c = ' ' then readTime? 23 more else none
      | [] => none
    match time with
    | none => some (String.ofList date, rest)
    | some (time, rest) =>
      let (offset, rest) := readOffset rest
      some (String.ofList (date ++ 'T' :: time ++ offset), rest)

/-- A number below one hundred in two digits. -/
private def twoDigits (n : Nat) : List Char :=
  [Nat.digitChar (n / 10), Nat.digitChar (n % 10)]

/-- Reads an offset of at most a day at the end of a text, where any two digits count as minutes. -/
def rereadOffset? : List Char → Option (List Char)
  | [] => some []
  | ['Z'] | ['z'] => some ['Z']
  | [sign, h₁, h₂, ':', m₁, m₂] => do
    let hours ← Decimal.readNatural? [h₁, h₂]
    let minutes ← Decimal.readNatural? [m₁, m₂]
    let offset := 60 * hours + minutes
    if (sign ≠ '+' ∧ sign ≠ '-') ∨ 1440 < offset then none
    let sign := if offset = 0 then '+' else sign
    some (sign :: twoDigits (offset / 60) ++ ':' :: twoDigits (offset % 60))
  | _ => none

/-- Reads the text of a moment again. More is a moment here than in a document: the hour 24, and an
offset right behind a day. -/
def rereadMoment? (text : String) : Option String :=
  match readDate? text.toList with
  | none =>
    match readTime? 24 text.toList with
    | some (time, []) => some (String.ofList time)
    | _ => none
  | some (date, rest) => do
    let (time, rest) ← match rest with
      | c :: more =>
        if c = 'T' ∨ c = 't' ∨ c = ' ' then
          (readTime? 24 more).map fun (time, rest) => ('T' :: time, rest)
        else some ([], rest)
      | [] => some ([], [])
    let offset ← rereadOffset? rest
    some (String.ofList (date ++ time ++ offset))

end UptimeSync.Toml
