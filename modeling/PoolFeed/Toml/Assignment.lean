import PoolFeed.Toml.Text

/-!
# Flat TOML files

Files of assignments, one a line, of strings and whole numbers to keys. Tables, arrays and values
of other kinds are refused.
-/

namespace PoolFeed.Toml

/-- What is assigned to a key. -/
inductive Value where
  | text (value : String)
  | integer (value : Int)
  deriving DecidableEq, Repr

/-! ## Numbers -/

/-- Cuts a text at underscores. -/
def groups : List Char → List (List Char)
  | [] => [[]]
  | c :: rest =>
    if c = '_' then [] :: groups rest
    else
      match groups rest with
      | [] => [[c]]
      | g :: more => (c :: g) :: more

/-- The digits of a number in a base, with single underscores between them. -/
def digits? (base : Nat) (text : List Char) : Option Nat :=
  let parts := groups text
  if parts.any List.isEmpty then none
  else
    parts.flatten.foldl (fun n c =>
      match n, hexValue? [c] with
      | some n, some d => if d < base then some (base * n + d) else none
      | _, _ => none) (some 0)

/-- A decimal number without its sign. Only zero begins with a zero. -/
def decimal? (text : List Char) : Option Nat :=
  if text.head? = some '0' && text.length ≠ 1 then none else digits? 10 text

/-- The range of whole numbers. -/
def inRange (n : Int) : Bool := -9223372036854775808 ≤ n && n < 9223372036854775808

/-- A whole number. -/
def integer? (text : List Char) : Option Int :=
  let value : Option Int := match text with
    | '0' :: 'x' :: rest => (digits? 16 rest).map Int.ofNat
    | '0' :: 'o' :: rest => (digits? 8 rest).map Int.ofNat
    | '0' :: 'b' :: rest => (digits? 2 rest).map Int.ofNat
    | '+' :: rest => (decimal? rest).map Int.ofNat
    | '-' :: rest => (decimal? rest).map (fun n => -(n : Int))
    | _ => (decimal? text).map Int.ofNat
  value.filter inRange

/-! ## Lines -/

/-- Whether a character may stand in a key without quotes. -/
def inBareKey (c : Char) : Bool := c.isAlphanum || c = '_' || c = '-'

/-- A key, and what follows it. -/
def key? (s : List Char) : Option (List Char × List Char) :=
  match s with
  | '"' :: rest => basic? rest
  | '\'' :: rest => literal? rest
  | _ =>
    let key := s.takeWhile inBareKey
    if key.isEmpty then none else some (key, s.dropWhile inBareKey)

/-- Whether a character belongs to a value without quotes. -/
def inBareValue (c : Char) : Bool := !isBlank c && c ≠ '\n' && c ≠ '#'

/-- A value, and what follows it. -/
def value? (s : List Char) : Option (Value × List Char) :=
  match string? s with
  | some (text, rest) => some (.text (String.ofList text), rest)
  | none =>
    (integer? (s.takeWhile inBareValue)).map (fun n => (.integer n, s.dropWhile inBareValue))

/-- The rest of a line, which may be blank or hold a comment, and what follows the line break. -/
def lineEnd? (s : List Char) : Option (List Char) :=
  let rest := match s.dropWhile isBlank with
    | '#' :: comment => comment.dropWhile isPlain
    | rest => rest
  match rest with
  | [] => some []
  | '\n' :: more => some more
  | _ => none

/-- The assignment at the front, if the line is not blank, and what follows the line. -/
def line? (s : List Char) : Option (Option (String × Value) × List Char) :=
  match lineEnd? s with
  | some rest => some (none, rest)
  | none => do
    let (key, s₁) ← key? (s.dropWhile isBlank)
    match s₁.dropWhile isBlank with
    | '=' :: s₂ =>
      let (value, s₃) ← value? (s₂.dropWhile isBlank)
      let rest ← lineEnd? s₃
      return (some (String.ofList key, value), rest)
    | _ => none

/-- The assignments of a text. A line that uses up nothing ends it. -/
def lines? (s : List Char) : Option (List (String × Value)) :=
  match line? s with
  | none => none
  | some (found, rest) =>
    if rest.isEmpty then some found.toList
    else if rest.length < s.length then (lines? rest).map (found.toList ++ ·) else none
termination_by s.length

/-- A text with line breaks of one character each. -/
def unifyBreaks : List Char → List Char
  | '\r' :: '\n' :: rest => '\n' :: unifyBreaks rest
  | c :: rest => c :: unifyBreaks rest
  | [] => []

/-- The mark that may stand at the front of a file. -/
def byteOrderMark : Char := Char.ofNat 0xFEFF

/-- The assignments of a file, in which no key occurs twice. -/
def assignments? (s : String) : Option (List (String × Value)) :=
  let text := match s.toList with
    | c :: rest => if c = byteOrderMark then rest else c :: rest
    | [] => []
  (lines? (unifyBreaks text)).filter (fun as => decide (as.map (·.1)).Nodup)

end PoolFeed.Toml
