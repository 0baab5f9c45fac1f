import UptimeSync.Decimal.Binary64

namespace UptimeSync

/-- An integer that a JSON text denotes exactly: signed or unsigned, it fits into 64 bits. -/
structure Json.Integer where
  value : Int
  lower : Int64.minValue.toInt ≤ value
  upper : value < UInt64.size
deriving DecidableEq

/-- A JSON value. Integers and reals are different values even when they are numerically equal. The
members of an object are listed by ascending key, each key once. -/
inductive Json where
  | null
  | bool (b : Bool)
  | integer (n : Json.Integer)
  | real (x : Binary64.Finite)
  | string (s : String)
  | array (items : List Json)
  | object (members : List (String × Json))

namespace Json

/-- The members of an object. -/
abbrev Members := List (String × Json)

instance : Inhabited Json := ⟨null⟩

/-- An identifier or a count as a JSON integer. -/
def ofInt64 (n : Int64) : Json :=
  .integer ⟨n.toInt, Int64.le_toInt n, Int.lt_trans (Int64.toInt_lt n) (by decide)⟩

/-- An unsigned word as a JSON integer. -/
def ofUInt64 (n : UInt64) : Json :=
  .integer ⟨n.toNat, Int.le_trans (by decide) (Int.natCast_nonneg _),
    Int.ofNat_lt.2 (UInt64.toNat_lt n)⟩

/-- The value if there is one, and null otherwise. -/
def ofOption (write : α → Json) (value : Option α) : Json :=
  value.elim null write

/-- Adds a member in its place by key, replacing the one with that key if there is one. -/
def insertMember (members : Members) (key : String) (value : Json) : Members :=
  match members with
  | [] => [(key, value)]
  | (k, v) :: rest =>
    if key < k then (key, value) :: (k, v) :: rest
    else if key = k then (key, value) :: rest
    else (k, v) :: insertMember rest key value

/-- Adds a list of members to an object, the later ones replacing the earlier ones. -/
def insertMembers (members additions : Members) : Members :=
  additions.foldl (fun acc entry => insertMember acc entry.1 entry.2) members

/-- An object from its members in any order; of two with one key the later one stays. -/
def ofMembers (members : Members) : Json :=
  .object (insertMembers [] members)

/-- The name of a value's type. -/
def typeName : Json → String
  | null => "null"
  | bool _ => "bool"
  | integer _ | real _ => "number"
  | string _ => "string"
  | array _ => "array"
  | object _ => "object"

mutual
/-- Equality of values: the real zeros are equal, and an integer never equals a real. -/
protected def beq : Json → Json → Bool
  | null, null => true
  | bool a, bool b => a == b
  | integer m, integer n => m == n
  | real x, real y => Binary64.numericallyEqual (.finite x) (.finite y)
  | string s, string t => s == t
  | array xs, array ys => beqItems xs ys
  | object xs, object ys => beqMembers xs ys
  | _, _ => false

private def beqItems : List Json → List Json → Bool
  | [], [] => true
  | x :: xs, y :: ys => x.beq y && beqItems xs ys
  | _, _ => false

private def beqMembers : Members → Members → Bool
  | [], [] => true
  | (k, x) :: xs, (l, y) :: ys => k == l && x.beq y && beqMembers xs ys
  | _, _ => false
end

instance : BEq Json := ⟨Json.beq⟩

end Json
end UptimeSync
