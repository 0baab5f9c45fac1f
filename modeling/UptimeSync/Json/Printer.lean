import UptimeSync.Json.Basic
import UptimeSync.Decimal.Layout

namespace UptimeSync.Json

private def hexDigit (n : Nat) : Char := Nat.digitChar n

/-- How one character is written inside a string: quotes, backslashes and control characters are
escaped. -/
private def writeChar (c : Char) : List Char :=
  if c = '"' then ['\\', '"']
  else if c = '\\' then ['\\', '\\']
  else if c < ' ' then ['\\', 'u', '0', '0', hexDigit (c.toNat / 16), hexDigit (c.toNat % 16)]
  else [c]

private def writeString (s : String) : String :=
  String.ofList ('"' :: (s.toList.flatMap writeChar ++ ['"']))

mutual
/-- The text of a value, without space between its tokens. -/
def print : Json → String
  | null => "null"
  | bool b => if b then "true" else "false"
  | integer n => toString n.value
  | real x => x.literal
  | string s => writeString s
  | array [] => "[]"
  | array (item :: items) => "[" ++ print item ++ printItems items
  | object [] => "\x7b\x7d"
  | object ((key, value) :: members) =>
    "\x7b" ++ writeString key ++ ":" ++ print value ++ printMembers members

private def printItems : List Json → String
  | [] => "]"
  | item :: items => "," ++ print item ++ printItems items

private def printMembers : Members → String
  | [] => "\x7d"
  | (key, value) :: members => "," ++ writeString key ++ ":" ++ print value ++ printMembers members
end

end UptimeSync.Json
