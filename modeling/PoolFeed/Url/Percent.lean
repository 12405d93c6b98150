import PoolFeed.Text.Bytes

/-!
# Percent-encoding

A character that must not stand in a part of a URL is written as its UTF-8 bytes, each as a percent
sign and two hexadecimal digits. Which ASCII characters these are depends on the part; all others
are always encoded.
-/

namespace PoolFeed.Url

open Text (Bytes)

/-! ## Which characters are encoded -/

/-- Control characters. They are encoded everywhere. -/
def isControl (c : Char) : Bool := c.toNat < 0x20 || c.toNat = 0x7F

/-- What is encoded in a fragment. -/
def inFragmentSet (c : Char) : Bool := isControl c || c ∈ [' ', '"', '<', '>', '`']

/-- What is encoded in a query. -/
def inQuerySet (c : Char) : Bool := isControl c || c ∈ [' ', '"', '#', '<', '>']

/-- What is encoded in the query of a URL whose scheme is special. -/
def inSpecialQuerySet (c : Char) : Bool := inQuerySet c || c = '\''

/-- What is encoded in a path. -/
def inPathSet (c : Char) : Bool := inFragmentSet c || c ∈ ['#', '?', '{', '\x7d']

/-- What is encoded in a user name and in a password. -/
def inUserinfoSet (c : Char) : Bool :=
  inPathSet c || c ∈ ['/', ':', ';', '=', '@', '[', '\\', ']', '^', '|']

/-! ## Encoding and decoding -/

/-- A byte as a percent sign and two hexadecimal digits. -/
def percentByte (b : UInt8) : List Char :=
  ['%', (Nat.digitChar (b.toNat / 16)).toUpper, (Nat.digitChar (b.toNat % 16)).toUpper]

/-- A character in a part of a URL. -/
def encodeChar (inSet : Char → Bool) (c : Char) : List Char :=
  if c.toNat < 0x80 && !inSet c then [c] else (Text.encode [c]).flatMap percentByte

/-- A text in a part of a URL. -/
def encode (inSet : Char → Bool) (cs : List Char) : List Char := cs.flatMap (encodeChar inSet)

/-- The value of a hexadecimal digit. -/
def hexValue? (c : Char) : Option Nat :=
  if c.isDigit then some (c.toNat - 48)
  else if 'a' ≤ c ∧ c ≤ 'f' then some (c.toNat - 87)
  else if 'A' ≤ c ∧ c ≤ 'F' then some (c.toNat - 55)
  else none

/-- The bytes of a text in which bytes may be percent-encoded. -/
def decode : List Char → Bytes
  | '%' :: a :: b :: rest =>
    match hexValue? a, hexValue? b with
    | some x, some y => UInt8.ofNat (16 * x + y) :: decode rest
    | _, _ => Text.byte '%' :: decode (a :: b :: rest)
  | c :: rest => Text.encode [c] ++ decode rest
  | [] => []

end PoolFeed.Url
