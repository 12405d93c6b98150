/-!
# Punycode

Text of any characters in letters, digits and hyphens. The ASCII characters come first; the others
follow in the order of their code points, each as the distance that a decoder has to go from the
one before it. A distance is a number in base 36 whose digits end with the first one below a
threshold, and the thresholds follow the distances that were met.

## Main statements

* `readDistance?_length` — reading a distance uses up some of the text
-/

namespace PoolFeed.Text.Punycode

/-- A digit in base 36. -/
def digit (n : Nat) : Char := if n < 26 then Char.ofNat (97 + n) else Char.ofNat (22 + n)

/-- The threshold of a digit, given its place in steps of 36. -/
def threshold (place bias : Nat) : Nat := max 1 (min 26 (place - bias))

theorem threshold_bounds (place bias : Nat) :
    1 ≤ threshold place bias ∧ threshold place bias ≤ 26 := by
  unfold threshold
  omega

def digits (bias place distance : Nat) : List Char :=
  let t := threshold place bias
  if distance < t then [digit distance]
  else
    digit (t + (distance - t) % (36 - t)) :: digits bias (place + 36) ((distance - t) / (36 - t))
termination_by distance
decreasing_by
  have := threshold_bounds place bias
  have := Nat.div_le_self (distance - threshold place bias) (36 - threshold place bias)
  omega

/-- Divides a distance until it is small, and counts the divisions in steps of 36. -/
def settle (place distance : Nat) : Nat :=
  if 455 < distance then settle (place + 36) (distance / 35)
  else place + 36 * distance / (distance + 38)
termination_by distance
decreasing_by omega

/-- The bias behind a distance, given how many characters are placed by then. -/
def adapt (distance placed : Nat) (isFirst : Bool) : Nat :=
  let d := if isFirst then distance / 700 else distance / 2
  settle 0 (d + d / placed)

/-! ## Encoding -/

/-- How far an encoding has come. -/
structure Progress where
  out : List Char
  distance : Nat
  bias : Nat
  /-- The number of characters that are placed. -/
  placed : Nat

/-- Goes past a character while the code point `n` is placed, or places it. -/
def visit (n : Nat) (start : Nat) (p : Progress) (c : Char) : Progress :=
  if c.toNat < n then { p with distance := p.distance + 1 }
  else if c.toNat = n then
    { out := p.out ++ digits p.bias 36 p.distance
      distance := 0
      bias := adapt p.distance (p.placed + 1) (p.placed = start)
      placed := p.placed + 1 }
  else p

/-- Places every occurrence of some code points, which increase from `next` on. -/
def place (text : List Char) (start : Nat) : List Nat → Nat → Progress → Progress
  | [], _, p => p
  | n :: rest, next, p =>
    -- A decoder goes over every place once for each code point up to this one.
    let q := { p with distance := p.distance + (n - next) * (p.placed + 1) }
    let r := text.foldl (visit n start) q
    place text start rest (n + 1) { r with distance := r.distance + 1 }

/-- The code points of a text beyond ASCII in increasing order, each once. -/
def codePoints (text : List Char) : List Nat :=
  (((text.map Char.toNat).filter (0x80 ≤ ·)).mergeSort).eraseDups

/-- A text in Punycode. -/
def encode (text : List Char) : List Char :=
  let ascii := text.filter (·.toNat < 0x80)
  let front := if ascii.isEmpty then [] else ascii ++ ['-']
  (place text ascii.length (codePoints text) 0x80 ⟨front, 0, 72, ascii.length⟩).out

/-! ## Decoding -/

def digitValue? (c : Char) : Option Nat :=
  if c.isLower then some (c.toNat - 97)
  else if c.isUpper then some (c.toNat - 65)
  else if c.isDigit then some (c.toNat - 22)
  else none

/-- The largest number that a decoder counts to. -/
def maxCount : Nat := 4294967295

/-- How far a distance at the front leads, from `sum` on, and what follows it. -/
def readDistance? (bias place weight sum : Nat) : List Char → Option (Nat × List Char)
  | [] => none
  | c :: rest =>
    match digitValue? c with
    | none => none
    | some d =>
      let t := threshold place bias
      if maxCount < sum + d * weight then none
      else if d < t then some (sum + d * weight, rest)
      else if maxCount < weight * (36 - t) then none
      else readDistance? bias (place + 36) (weight * (36 - t)) (sum + d * weight) rest

/-- Reading a distance uses up some of the text. -/
theorem readDistance?_length {bias place weight sum target : Nat} {s rest : List Char}
    (h : readDistance? bias place weight sum s = some (target, rest)) :
    rest.length < s.length := by
  induction s generalizing place weight sum with
  | nil => simp [readDistance?] at h
  | cons c s ih =>
    simp only [readDistance?] at h
    split at h
    · simp at h
    · split at h
      · simp at h
      · split at h
        · simp only [Option.some.injEq, Prod.mk.injEq] at h
          simp [h.2]
        · split at h
          · simp at h
          · have := ih h
            simp only [List.length_cons]
            omega

/-- The character with a number, if there is one. -/
def charOf? (n : Nat) : Option Char := if h : n.isValidChar then some (Char.ofNatAux n h) else none

/--
Puts the characters of an encoding into those that are placed already. The last one put has the
code point `n` or, if there is none, it is the first code point beyond ASCII, and the search for
the next place begins at `start`.
-/
def decodeFrom (placed : List Char) (n start bias : Nat) (s : List Char) : Option (List Char) :=
  if s.isEmpty then some placed
  else
    match _h : readDistance? bias 36 1 start s with
    | none => none
    | some (target, rest) =>
      let places := placed.length + 1
      -- Going past the last place leads to the next code point.
      match charOf? (n + target / places) with
      | none => none
      | some c =>
        decodeFrom (placed.insertIdx (target % places) c) (n + target / places)
          (target % places + 1) (adapt (target - start) places (placed.all (·.toNat < 0x80))) rest
termination_by s.length
decreasing_by exact readDistance?_length _h

/-- The text that some Punycode stands for. A hyphen only stands behind ASCII characters. -/
def decode? (code : List Char) : Option (List Char) :=
  let digits := (code.reverse.takeWhile (· ≠ '-')).reverse
  let ascii := code.take (code.length - digits.length - 1)
  if ascii.isEmpty && digits.length < code.length then none
  else decodeFrom ascii 0x80 0 72 digits

end PoolFeed.Text.Punycode
