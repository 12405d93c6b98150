/-!
# Failures of a program

A failure is told in messages, each of which says what was behind the one before it. Behind the
last of them may stand the error of something outside, whose wording is not known here.
-/

namespace PoolFeed

/-- Why a program failed. -/
structure Failure where
  /-- The messages, outermost first. -/
  messages : List String
  /-- Whether an error of something outside is behind the last message. -/
  isForeign : Bool
  deriving DecidableEq, Repr

namespace Failure

def ofMessage (message : String) : Failure := ⟨[message], false⟩

/-- A failure of something outside. -/
def foreign (message : String) : Failure := ⟨[message], true⟩

/-- A failure of something outside that is not told any further. -/
def unknown : Failure := ⟨[], true⟩

/-- A failure seen from further outside. -/
def within (f : Failure) (message : String) : Failure :=
  { f with messages := message :: f.messages }

def line (f : Failure) : String := ": ".intercalate f.messages

/-- A text whose lines but the first stand behind some blanks. -/
def indented (blanks : Nat) (text : String) : String :=
  String.ofList (text.toList.flatMap (fun c =>
    if c = '\n' then '\n' :: List.replicate blanks ' ' else [c]))

def causeText (isNumbered : Bool) (index : Nat) (message : String) : String :=
  if isNumbered then
    let number := toString index
    String.ofList (List.replicate (5 - number.length) ' ') ++ number ++ ": " ++ indented 7 message
  else "    " ++ indented 4 message

/-- The report of a failure: its message and, if there are any, the causes on lines of their own. -/
def report (f : Failure) : String :=
  match f.messages with
  | [] => "Error: "
  | message :: causes =>
    let count := causes.length + (if f.isForeign then 1 else 0)
    let texts := causes.zipIdx.map (fun (c, i) => "\n" ++ causeText (1 < count) i c)
    "Error: " ++ message ++ (if causes.isEmpty then "" else "\n\nCaused by:" ++ String.join texts)

end Failure

end PoolFeed
