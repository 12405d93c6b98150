import PoolFeed.Text.CombiningClass
import PoolFeed.Text.Composite

/-!
# Composed text

The same text can be written with composite characters or with their parts, and with the marks on
a character in more than one order. The composed form is the one that is compared: everything is
taken apart, marks are put into the order of their classes, and what can be composed is composed.
-/

namespace PoolFeed.Text

/-! ## Taking apart -/

/-- How often the first part of a composite can be a composite again, at most. -/
def compositeDepth : Nat := 4

/-- A character taken apart, down to some depth. -/
def decomposeTo : Nat → Char → List Char
  | 0, c => [c]
  | depth + 1, c =>
    match Composite.parts? c with
    | some (a, b) => decomposeTo depth a ++ [b]
    | none => [c]

/-- A character taken apart. -/
def decompose (c : Char) : List Char := decomposeTo compositeDepth c

/-! ## Ordering marks -/

/-- Puts a character in front of a text, behind the marks there that it has to follow. -/
def place (c : Char) : List Char → List Char
  | [] => [c]
  | d :: rest =>
    if combiningClass d ≠ 0 ∧ combiningClass d < combiningClass c then d :: place c rest
    else c :: d :: rest

def ordered (text : List Char) : List Char := text.foldr place []

/-! ## Composing -/

/-- Whether a character cannot reach the one that it belongs to, past the marks left behind it. -/
def isBlocked (c : Char) (marks : List Char) : Bool :=
  marks.head?.any (fun m => combiningClass c ≤ combiningClass m)

/-- Composes a text behind a character and the marks left behind that one, which are reversed. -/
def composeFrom (base : Char) (marks : List Char) : List Char → List Char
  | [] => base :: marks.reverse
  | c :: rest =>
    match if isBlocked c marks then none else Composite.compose? base c with
    | some whole => composeFrom whole marks rest
    | none =>
      if combiningClass c = 0 then (base :: marks.reverse) ++ composeFrom c [] rest
      else composeFrom base (c :: marks) rest

/-- A text, taken apart and ordered, with what can be composed. -/
def composed : List Char → List Char
  | [] => []
  | c :: rest => if combiningClass c = 0 then composeFrom c [] rest else c :: composed rest

def normal (text : List Char) : List Char := composed (ordered (text.flatMap decompose))

end PoolFeed.Text
