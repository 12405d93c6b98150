import PoolFeed.Json.Basic
import PoolFeed.Text.Bytes

/-!
# Writing JSON

The compact text of a value: no white space, object fields in key order, and no escape that is
not required.
-/

namespace PoolFeed.Json

/--
Numbers with a fraction are positional while the first digit stands between the fifth place after
the point and the sixteenth before it; beyond that the exponent is written with its sign.
-/
def numberLayout : NumberLayout where
  leastPositional := -5
  greatestPositional := 15
  signedExponent := true

def Number.text : Number → String
  | .integer i => toString i
  | .float x => numberLayout.write x

/-- The lower-case hexadecimal digit of a value below 16. -/
def hexDigit (n : Nat) : Char := Nat.digitChar n

/-- A character inside quotes: only quotes, backslashes and control characters are escaped. -/
def escaped (c : Char) : List Char :=
  if c = '"' then ['\\', '"']
  else if c = '\\' then ['\\', '\\']
  else if c = '\x08' then ['\\', 'b']
  else if c = '\x0c' then ['\\', 'f']
  else if c = '\n' then ['\\', 'n']
  else if c = '\r' then ['\\', 'r']
  else if c = '\t' then ['\\', 't']
  else if c.toNat < 0x20 then
    ['\\', 'u', '0', '0', hexDigit (c.toNat / 16), hexDigit (c.toNat % 16)]
  else [c]

/-- A text between quotes. -/
def quoted (s : String) : List Char := '"' :: s.toList.flatMap escaped ++ ['"']

mutual

/-- The compact text of a value. -/
def chars : Json → List Char
  | .null => ['n', 'u', 'l', 'l']
  | .bool true => ['t', 'r', 'u', 'e']
  | .bool false => ['f', 'a', 'l', 's', 'e']
  | .number n => n.text.toList
  | .string s => quoted s
  | .array items => '[' :: itemChars items
  | .object fields => '{' :: fieldChars fields

/-- The values of an array, up to and with the closing bracket. -/
def itemChars : List Json → List Char
  | [] => [']']
  | v :: rest => chars v ++ (match rest with | [] => [']'] | _ :: _ => ',' :: itemChars rest)

/-- The fields of an object, up to and with the closing brace. -/
def fieldChars : List (String × Json) → List Char
  | [] => ['}']
  | (k, v) :: rest =>
    quoted k ++ ':' :: chars v ++ (match rest with | [] => ['}'] | _ :: _ => ',' :: fieldChars rest)

end

/-- The compact text of a value. -/
def text (v : Json) : String := String.ofList v.chars

end PoolFeed.Json
