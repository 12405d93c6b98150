/-!
# Tables of character ranges

What a standard says of characters, range by range. The text of a table has a word for each range:
its first character in hexadecimal, its last one behind a hyphen if there are more, and what is
said of them. So `300-314:e6 315:e8` says something of 22 characters, in two ranges that increase.
-/

namespace PoolFeed.Text

/-- The characters from `first` to `last`, and what is said of them. -/
structure CharRange (α : Type) where
  first : Nat
  last : Nat
  value : α

/-- Ranges of characters that increase and do not meet. -/
structure RangeTable (α : Type) where
  ranges : Array (CharRange α)

/-! ## Reading a table -/

/-- Whether a character stands between words. -/
def isGap (c : Char) : Bool := c = ' ' || c = '\n'

def words (text : List Char) : List (List Char) :=
  match _h : text.dropWhile isGap with
  | [] => []
  | c :: rest => (c :: rest.takeWhile (!isGap ·)) :: words (rest.dropWhile (!isGap ·))
termination_by text.length
decreasing_by
  have h₁ := (List.dropWhile_suffix (fun c => !isGap c) (l := rest)).length_le
  have h₂ := (List.dropWhile_suffix isGap (l := text)).length_le
  rw [_h, List.length_cons] at h₂
  omega

/-- Whether a character is a hexadecimal digit in lower case. -/
def isHexDigit (c : Char) : Bool := c.isDigit || ('a' ≤ c && c ≤ 'f')

/-- The number that hexadecimal digits write. -/
def hexNumber (digits : List Char) : Nat :=
  digits.foldl (fun n c => 16 * n + (if c.isDigit then c.toNat - 48 else c.toNat - 87)) 0

namespace CharRange

/-- The range that a word writes, given how the rest of the word is read. -/
def ofWord {α : Type} (read : List Char → α) (word : List Char) : CharRange α :=
  let first := hexNumber (word.takeWhile isHexDigit)
  match word.dropWhile isHexDigit with
  | '-' :: rest => ⟨first, hexNumber (rest.takeWhile isHexDigit), read (rest.dropWhile isHexDigit)⟩
  | rest => ⟨first, first, read rest⟩

end CharRange

namespace RangeTable

variable {α : Type}

def ofText (read : List Char → α) (text : String) : RangeTable α :=
  ⟨((words text.toList).map (CharRange.ofWord read)).toArray⟩

/-- A table that only says which characters are in it. -/
def ofSet (text : String) : RangeTable Unit := ofText (fun _ => ()) text

/-! ## Looking up a character -/

/-- The range with a number in it, among those from `lo` on and before `hi`. -/
def findBetween (ranges : Array (CharRange α)) (n lo hi : Nat) : Option (CharRange α) :=
  if _h : lo < hi then
    match ranges[(lo + hi) / 2]? with
    | none => none
    | some r =>
      if n < r.first then findBetween ranges n lo ((lo + hi) / 2)
      else if r.last < n then findBetween ranges n ((lo + hi) / 2 + 1) hi
      else some r
  else none
termination_by hi - lo

/-- The range with a character in it. -/
def find? (t : RangeTable α) (c : Char) : Option (CharRange α) :=
  findBetween t.ranges c.toNat 0 t.ranges.size

/-- What a table says of a character. -/
def lookup (t : RangeTable α) (c : Char) : Option α := (t.find? c).map (·.value)

/-- Whether a character is in a table. -/
def contains (t : RangeTable α) (c : Char) : Bool := (t.find? c).isSome

end RangeTable

end PoolFeed.Text
