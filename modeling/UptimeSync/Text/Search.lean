namespace UptimeSync.Text

/-- Holds if a run of characters occurs in another one. -/
def isInfix (part : List Char) : List Char → Bool
  | [] => part.isEmpty
  | c :: cs => part.isPrefixOf (c :: cs) || isInfix part cs

/-- Holds if a text occurs in another one. -/
def contains (s part : String) : Bool :=
  isInfix part.toList s.toList

/-- What follows `start` at the front of a run of characters. -/
def afterStart? (start cs : List Char) : Option (List Char) :=
  if start.isPrefixOf cs then some (cs.drop start.length) else none

/-- Holds if a text begins with another one. -/
def startsWith (s start : String) : Bool :=
  start.toList.isPrefixOf s.toList

end UptimeSync.Text
