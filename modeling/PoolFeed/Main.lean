import PoolFeed.Program

/-!
# The command line

Reads the arguments, the environment and the files, runs the program, and shows what it printed and
reported. No database and no broker can be reached from here.
-/

namespace PoolFeed.Main

open CommandLine (Invocation)
open Database (Script)
open Program (Conclusion)

/-- Why a file could not be read. -/
def faultOf : IO.Error → FileFault
  | .noFileOrDirectory .. => .notFound
  | e => .other (toString e)

def readFile (path : String) : IO (String × Except FileFault Text.Bytes) := do
  try
    return (path, .ok (← IO.FS.readBinFile path).toList)
  catch e =>
    return (path, .error (faultOf e))

/-- The value of a variable that an option falls back on. -/
def readVariable (name : String) : IO (String × Option String) := do
  return (name, ← IO.getEnv name)

/-- Shows how the program ended. -/
def finish (filter : String) (c : Conclusion Script Broker) : IO UInt32 := do
  for line in c.transcript filter do
    IO.println line
  unless c.complaint.isEmpty do
    IO.eprintln c.complaint
  return UInt32.ofNat c.exitCode

/-- Does what is asked for. -/
def invoke (i : Invocation) : IO UInt32 := do
  let files ← i.files.mapM readFile
  finish i.logFilter (Program.conclude (Program.invoke i
    { files := fun path => (files.lookup path).getD (.error .notFound)
      database := fun _ => none
      broker := fun _ => .error .unknown
      deliveries := []
      ending := .closed
      now := ⟨0, 0⟩
      acceptsInvalidCertificates := false }))

end PoolFeed.Main

/-- Runs the program on its arguments. -/
def main (arguments : List String) : IO UInt32 := do
  let names := PoolFeed.CommandLine.sharedOptions.filterMap (·.fallback)
  let environment ← names.mapM PoolFeed.Main.readVariable
  let valueOf (name : String) := (environment.lookup name).join
  match PoolFeed.CommandLine.readArguments valueOf arguments with
  | .error i => PoolFeed.Main.finish "info" (PoolFeed.Program.interrupted i)
  | .ok i => PoolFeed.Main.invoke i
