import PoolFeed.Decimal.Shortest
import PoolFeed.Data.SortedMap

/-!
# JSON values

A JSON value with exact numbers. The fields of an object are kept in key order, whatever order
they were written in, and a key occurs once.
-/

namespace PoolFeed

/-- A number: a whole number that fits 64 bits, or a binary64 number. -/
inductive Json.Number where
  | integer (value : Int)
  | float (value : Binary64)
  deriving DecidableEq, Repr

/-- A JSON value. -/
inductive Json where
  | null
  | bool (value : Bool)
  | number (value : Json.Number)
  | string (value : String)
  | array (items : List Json)
  | object (fields : List (String × Json))
  deriving Inhabited

namespace Json

/-- Whether a value is a text. -/
def isString : Json → Bool
  | .string _ => true
  | _ => false

/-- The text of a value that is one. -/
def string? : Json → Option String
  | .string s => some s
  | _ => none

/-- The number of arrays and objects around the innermost value, its own included. -/
def depth : Json → Nat
  | .array items => 1 + depths items
  | .object fields => 1 + fieldDepths fields
  | _ => 0
where
  /-- The greatest depth among some values. -/
  depths : List Json → Nat
    | [] => 0
    | v :: rest => max v.depth (depths rest)
  /-- The greatest depth among the values of some fields. -/
  fieldDepths : List (String × Json) → Nat
    | [] => 0
    | (_, v) :: rest => max v.depth (fieldDepths rest)

end Json

end PoolFeed
