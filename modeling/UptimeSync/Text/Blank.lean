namespace UptimeSync.Text

/-- The characters with the Unicode property White_Space. -/
def isBlank (c : Char) : Bool :=
  let n := c.toNat
  (0x9 ≤ n && n ≤ 0xD) || n == 0x20 || n == 0x85 || n == 0xA0 || n == 0x1680 ||
    (0x2000 ≤ n && n ≤ 0x200A) || n == 0x2028 || n == 0x2029 || n == 0x202F ||
    n == 0x205F || n == 0x3000

/-- What is left of a run of characters without the blanks at its two ends. -/
def trimmed (cs : List Char) : List Char :=
  ((cs.dropWhile isBlank).reverse.dropWhile isBlank).reverse

/-- Text without the blanks at its two ends; blanks between other characters stay. -/
def trim (s : String) : String :=
  String.ofList (trimmed s.toList)

/-- Holds of text that is empty once it is trimmed. -/
def isAllBlank (s : String) : Bool :=
  (trim s).isEmpty

/-- Lower-case letters for the upper-case ASCII letters; every other character stays. -/
def lowerAscii (s : String) : String :=
  s.map Char.toLower

end UptimeSync.Text
