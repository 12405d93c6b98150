import PoolFeed.Text.Bytes

/-!
# Files

What reading a file may come to.
-/

namespace PoolFeed

/-- Why a file cannot be read. -/
inductive FileFault where
  | notFound
  /-- A part of the path that should be a directory is none. -/
  | notADirectory
  /-- The path leads to a directory. -/
  | isADirectory
  /-- The file was asked for as text, and is none. -/
  | notText
  /-- Anything else, in the words of the system. -/
  | other (reason : String)
  deriving DecidableEq, Repr

/-- The wording of a fault. -/
def FileFault.message : FileFault → String
  | .notFound => "No such file or directory (os error 2)"
  | .notADirectory => "Not a directory (os error 20)"
  | .isADirectory => "Is a directory (os error 21)"
  | .notText => "stream did not contain valid UTF-8"
  | .other reason => reason

/-- The files that can be read, by path. -/
abbrev Files := String → Except FileFault Text.Bytes

def Files.text (files : Files) (path : String) : Except FileFault String :=
  match files path with
  | .error f => .error f
  | .ok bytes =>
    match Text.decode? bytes with
    | some text => .ok text
    | none => .error .notText

end PoolFeed
