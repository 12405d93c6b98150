import PoolFeed.Url.Domain
import PoolFeed.Url.Percent

/-!
# Hosts

The host of a URL is a name or an address. In URLs of special schemes a name is a domain, and a
name that ends in a number has to be an address; in others it is kept as it is.
-/

namespace PoolFeed.Url

/-- The host of a URL. -/
inductive Host where
  /-- A name, which may be empty. -/
  | name (text : List Char)
  | ipv4 (address : Nat)
  /-- Eight groups of 16 bits. -/
  | ipv6 (groups : List Nat)
  deriving DecidableEq, Repr

/-- Cuts a text wherever a separator stands. -/
def splitAt (isSeparator : Char → Bool) : List Char → List (List Char)
  | [] => [[]]
  | c :: rest =>
    if isSeparator c then [] :: splitAt isSeparator rest
    else
      match splitAt isSeparator rest with
      | [] => [[c]]
      | part :: parts => (c :: part) :: parts

/-- The number that some digits write in a base. -/
def readDigits (base : Nat) (digits : List Char) : Option Nat :=
  digits.foldl (fun n c =>
    match n, hexValue? c with
    | some n, some d => if d < base then some (base * n + d) else none
    | _, _ => none) (some 0)

/-! ## Addresses of 32 bits -/

/-- A part of an address: decimal, octal behind a zero, or hexadecimal behind `0x`. -/
def ipv4Part? (part : List Char) : Option Nat :=
  match part with
  | [] => none
  | '0' :: 'x' :: rest => readDigits 16 rest
  | '0' :: 'X' :: rest => readDigits 16 rest
  | '0' :: d :: rest => readDigits 8 (d :: rest)
  | _ => readDigits 10 part

/-- The parts of a name, without an empty one at its end. -/
def nameParts (name : List Char) : List (List Char) :=
  let parts := splitAt (· = '.') name
  if 1 < parts.length && parts.getLast? = some [] then parts.dropLast else parts

/-- Whether a name ends in a number, so that it can only be an address. -/
def endsInNumber (name : List Char) : Bool :=
  match (nameParts name).getLast? with
  | some part => (!part.isEmpty && part.all Char.isDigit) || (ipv4Part? part).isSome
  | none => false

/-- An address in up to four parts, the last of which fills what is left. -/
def ipv4? (name : List Char) : Option Nat := do
  let parts := nameParts name
  if 4 < parts.length then none
  let numbers ← parts.mapM ipv4Part?
  let last ← numbers.getLast?
  let front := numbers.dropLast
  -- Every part but the last is one byte, and the last one has all bytes that are left.
  if front.any (255 < ·) || 1 <<< (8 * (4 - front.length)) ≤ last then none
  return front.zipIdx.foldl (fun sum (n, i) => sum + (n <<< (8 * (3 - i)))) last

/-- An address of 32 bits in four decimal parts. -/
def ipv4Text (address : Nat) : List Char :=
  (".".intercalate ([3, 2, 1, 0].map (fun i => toString (address >>> (8 * i) % 256)))).toList

/-! ## Addresses of 128 bits -/

/-- A group of an address: up to four hexadecimal digits. -/
def group? (part : List Char) : Option (List Nat) :=
  if part.isEmpty || 4 < part.length then none else (readDigits 16 part).map ([·])

/-- A part of an address of 32 bits that stands in place of two groups. -/
def embeddedPart? (part : List Char) : Option Nat :=
  match part with
  | [] => none
  | ['0'] => some 0
  | '0' :: _ => none
  | _ => (readDigits 10 part).filter (· ≤ 255)

/-- The last part of an address: a group, or an address of 32 bits. -/
def lastGroups? (part : List Char) : Option (List Nat) :=
  if '.' ∈ part then
    match (splitAt (· = '.') part).mapM embeddedPart? with
    | some [a, b, c, d] => some [256 * a + b, 256 * c + d]
    | _ => none
  else group? part

/-- The groups between two ends of an address; only its very end may hold an address of 32 bits. -/
def groups? (isEnd : Bool) (text : List Char) : Option (List Nat) :=
  if text.isEmpty then some []
  else do
    let parts := splitAt (· = ':') text
    let front ← parts.dropLast.mapM group?
    let last ← parts.getLast?
    let lastGroups ← if isEnd then lastGroups? last else group? last
    return front.flatten ++ lastGroups

/-- What stands before and behind the first two colons in a row. -/
def splitAtGap : List Char → Option (List Char × List Char)
  | ':' :: ':' :: rest => some ([], rest)
  | c :: rest => (splitAtGap rest).map (fun (a, b) => (c :: a, b))
  | [] => none

/-- An address of 128 bits. Two colons in a row stand for groups of zeros, at least one. -/
def ipv6? (text : List Char) : Option (List Nat) :=
  match splitAtGap text with
  | none => (groups? true text).filter (·.length = 8)
  | some (front, back) => do
    let a ← groups? false front
    let b ← groups? true back
    if 7 < a.length + b.length then none
    return a ++ List.replicate (8 - a.length - b.length) 0 ++ b

/-- The number of zeros in front. -/
def leadingZeros (groups : List Nat) : Nat := (groups.takeWhile (· = 0)).length

/-- Where the longest run of zeros begins, and how long it is; of several, the first. -/
def longestZeros (groups : List Nat) : Nat × Nat :=
  (List.range groups.length).foldl (fun best i =>
    let n := leadingZeros (groups.drop i)
    if best.2 < n then (i, n) else best) (0, 0)

/-- Groups in hexadecimal, with colons between them. -/
def groupsText (groups : List Nat) : List Char :=
  [':'].intercalate (groups.map (Nat.toDigits 16))

/-- An address of 128 bits. The longest run of zeros is left out if it has more than one group. -/
def ipv6Text (groups : List Nat) : List Char :=
  let (start, length) := longestZeros groups
  if length < 2 then groupsText groups
  else groupsText (groups.take start) ++ [':', ':'] ++ groupsText (groups.drop (start + length))

/-! ## Reading and writing -/

namespace Host

/-- An address in brackets. -/
def bracketed? (text : List Char) : Option Host :=
  if text.getLast? = some ']' then (ipv6? (text.drop 1).dropLast).map .ipv6 else none

/-- Whether a character cannot stand in a host that is kept as it is. -/
def isForbidden (c : Char) : Bool :=
  c.toNat = 0
    || c ∈ ['\t', '\n', '\r', ' ', '#', '/', ':', '<', '>', '?', '@', '[', '\\', ']', '^', '|']

/-- The host of a URL whose scheme is not special. -/
def ofText? (text : List Char) : Option Host :=
  if text.head? = some '[' then bracketed? text
  else if text.any isForbidden then none
  else some (.name (encode isControl text))

/-- The host of a URL whose scheme is special. -/
def ofDomain? (text : List Char) : Option Host :=
  if text.head? = some '[' then bracketed? text
  else do
    let decoded ← Text.decode? (decode text)
    let domain ← Domain.toAscii? decoded.toList
    if domain.isEmpty then none
    if endsInNumber domain then (ipv4? domain).map .ipv4 else some (.name domain)

def isEmpty (h : Host) : Bool := h = .name []

/-- The text of a host. -/
def chars : Host → List Char
  | .name text => text
  | .ipv4 address => ipv4Text address
  | .ipv6 groups => '[' :: ipv6Text groups ++ [']']

end Host

end PoolFeed.Url
