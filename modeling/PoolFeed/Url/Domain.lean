import PoolFeed.Text.Direction
import PoolFeed.Text.Joining
import PoolFeed.Text.Mark
import PoolFeed.Text.Normal
import PoolFeed.Text.Punycode
import PoolFeed.Url.Domain.Mapping

/-!
# Domains

A domain in the form in which it is looked up: lower case, and ASCII only. What its characters
stand for is put into composed form and cut into labels. Labels with characters beyond ASCII are
written in Punycode behind a mark.
-/

namespace PoolFeed.Url.Domain

open PoolFeed

/-- Whether a character cannot stand in a domain. -/
def isForbidden (c : Char) : Bool :=
  c.toNat ≤ 0x20 || c.toNat = 0x7F
    || c ∈ ['%', '#', '/', ':', '<', '>', '?', '@', '[', '\\', ']', '^', '|']

/-- Whether a text is ASCII. -/
def isAscii (cs : List Char) : Bool := cs.all (·.toNat < 0x80)

/-- What the characters of a domain stand for, in composed form. -/
def mapped? (domain : List Char) : Option (List Char) :=
  (domain.mapM meaning?).map (fun meanings => Text.normal meanings.flatten)

/-! ## Labels -/

/-- A label as it is shown and as it is looked up. -/
structure Label where
  shown : List Char
  ascii : List Char

def punycodeMark : List Char := ['x', 'n', '-', '-']

/-- The length of the longest label beyond ASCII, as it is shown. -/
def maxShown : Nat := 1000

/-- The length of the longest label in Punycode, without the mark. -/
def maxCode : Nat := 2000

/-- Whether a label beyond ASCII can be shown: it begins with no mark, and its joiners count. -/
def canBeShown (label : List Char) : Bool :=
  label.length ≤ maxShown && !label.head?.any Text.isMark && Text.Joining.allMeaningful label

/-- Whether a text is the one that it stands for, and can stand in a label. -/
def isStable (text : List Char) : Bool :=
  text.all (fun c => meaning? c = some [c] && c ≠ '.' && !isForbidden c) && Text.normal text = text

/-- What a label in Punycode shows, if it is the code of a label that needs one. -/
def decoded? (code : List Char) : Option (List Char) :=
  if code.isEmpty || code.getLast? = some '-' || maxCode < code.length || !isAscii code then none
  else
    match Text.Punycode.decode? code with
    | none => none
    | some text =>
      if isAscii text || punycodeMark.isPrefixOf text || !isStable text then none else some text

/-- A label, given what its characters stand for. -/
def Label.of? (text : List Char) : Option Label :=
  if punycodeMark.isPrefixOf text then
    match decoded? (text.drop punycodeMark.length) with
    | none => none
    | some shown => if canBeShown shown then some ⟨shown, text⟩ else none
  else if isAscii text then some ⟨text, text⟩
  else if canBeShown text then some ⟨text, punycodeMark ++ Text.Punycode.encode text⟩
  else none

/-! ## Whole domains -/

/-- The labels of a domain, with dots between them. -/
def joinLabels : List (List Char) → List Char := ['.'].intercalate

/-- Cuts a domain at its dots. -/
def labels : List Char → List (List Char)
  | [] => [[]]
  | c :: rest =>
    if c = '.' then [] :: labels rest
    else
      match labels rest with
      | [] => [[c]]
      | label :: more => (c :: label) :: more

/-- Whether labels go together: if one is written to the left, all can be shown in one way only. -/
def goTogether (ls : List Label) : Bool :=
  !ls.any (fun l => Text.Direction.hasLeftward l.shown)
    || ls.all (fun l => Text.Direction.isUnambiguous l.shown)

/-- The form in which a domain is looked up, if it can be a domain. -/
def toAscii? (domain : List Char) : Option (List Char) := do
  let text ← mapped? domain
  if text.any isForbidden then none
  let ls ← (labels text).mapM Label.of?
  if !goTogether ls then none
  return joinLabels (ls.map (·.ascii))

end PoolFeed.Url.Domain
