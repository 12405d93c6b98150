import PoolFeed.Url.Host

/-!
# Paths

A path is a list of segments, each behind a slash, or a text that no slash begins. Segments of one
or two dots are not kept: the first stands for nothing, the second takes back the segment before
it, unless that is the letter of a drive.
-/

namespace PoolFeed.Url

/-- The path of a URL. -/
inductive Path where
  /-- A text that no slash begins. -/
  | rootless (text : List Char)
  /-- Segments, each behind a slash. -/
  | rooted (segments : List (List Char))
  deriving DecidableEq, Repr

/-- The text of a path. -/
def Path.chars : Path → List Char
  | .rootless text => text
  | .rooted segments => segments.flatMap ('/' :: ·)

/-- The spellings of a dot in a segment that stands for something else. -/
def isDot (text : List Char) : Bool := text.map Char.toLower ∈ [['.'], ['%', '2', 'e']]

def isSingleDot (segment : List Char) : Bool := isDot segment

def isDoubleDot (segment : List Char) : Bool :=
  (List.range (segment.length + 1)).any (fun i => isDot (segment.take i) && isDot (segment.drop i))

/-- Whether a segment is the letter of a drive: a letter and a colon or a bar. -/
def isDrive : List Char → Bool
  | [letter, mark] => letter.isAlpha && (mark = ':' || mark = '|')
  | _ => false

/-- Whether a segment begins with the letter of a drive, alone or in front of a backslash. -/
def beginsWithDrive (segment : List Char) : Bool :=
  isDrive (segment.take 2) && (segment.drop 2).head?.all (· = '\\')

/-- A drive with a colon for its mark. -/
def normalDrive : List Char → List Char
  | [letter, _] => [letter, ':']
  | segment => segment

/-! ## Segments in a text -/

/-- Whether a character does not count anywhere in a URL. -/
def isIgnored (c : Char) : Bool := c = '\t' || c = '\n' || c = '\r'

/-- The characters that count. -/
def withoutIgnored (cs : List Char) : List Char := cs.filter (!isIgnored ·)

/-- A segment as it is found in a text. -/
structure Segment where
  text : List Char
  /-- A drive and what is behind it, if characters that do not count part the two. -/
  parted : Option (List Char × List Char)

namespace Segment

/-- A drive and what is behind it, if characters that do not count part the two. -/
def parted? (text : List Char) : Option (List Char × List Char) :=
  match text.dropWhile (· ≠ ':') with
  | ':' :: next :: rest =>
    let drive := withoutIgnored (text.takeWhile (· ≠ ':')) ++ [':']
    let behind := withoutIgnored rest
    if isIgnored next && isDrive drive && !behind.isEmpty then
      some (drive, encode inPathSet behind)
    else none
  | _ => none

/-- A segment of some characters. -/
def ofText (text : List Char) : Segment :=
  ⟨encode inPathSet (withoutIgnored text), parted? text⟩

end Segment

/-! ## Following segments -/

/-- How far the segments of a path are followed. -/
structure Trail where
  /-- The segments that are kept, the last one first. -/
  kept : List (List Char)
  /-- Whether the path leads to a drive, which no host but this machine has. -/
  onDrive : Bool

namespace Trail

/-- Takes back the last segment that is kept, unless that begins with the letter of a drive. -/
def takeBack : List (List Char) → List (List Char)
  | [] => []
  | last :: rest => if beginsWithDrive last then last :: rest else rest

/-- Keeps a segment. A drive in front of the path of a file has a colon for its mark. -/
def keep (ofFile : Bool) (t : Trail) (s : Segment) : Trail :=
  if ofFile && t.kept.isEmpty then
    match s.parted with
    | some (drive, behind) => { t with kept := [behind, drive] }
    | none => if isDrive s.text then ⟨[normalDrive s.text], true⟩ else { t with kept := [s.text] }
  else { t with kept := s.text :: t.kept }

/-- Follows a segment. Behind dots at the end of a path stands an empty segment. -/
def enter (ofFile : Bool) (t : Trail) (s : Segment) (isLast : Bool) : Trail :=
  let front : List (List Char) := if isLast then [[]] else []
  if isDoubleDot s.text then { t with kept := front ++ takeBack t.kept }
  else if isSingleDot s.text then { t with kept := front ++ t.kept }
  else t.keep ofFile s

/-- Follows segments to the end of a path. -/
def follow (ofFile : Bool) (t : Trail) : List Segment → Trail
  | [] => t
  | s :: rest => follow ofFile (t.enter ofFile s rest.isEmpty) rest

/-- The trail of a text behind the slash that begins its path. -/
def ofText (ofFile : Bool) (isSeparator : Char → Bool) (text : List Char) : Trail :=
  follow ofFile ⟨[], false⟩ ((splitAt isSeparator text).map Segment.ofText)

end Trail

/-- The segments of a text behind the slash that begins it. -/
def segmentsOf (isSeparator : Char → Bool) (text : List Char) : List (List Char) :=
  (Trail.ofText false isSeparator text).kept.reverse

/-- The segments of the path of a file. Slashes in front count as one. -/
def fileSegments (t : Trail) : List (List Char) :=
  match t.kept.reverse.dropWhile List.isEmpty with
  | [] => [[]]
  | segments => segments

end PoolFeed.Url
