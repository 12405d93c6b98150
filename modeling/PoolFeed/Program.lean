import PoolFeed.Command.Latest
import PoolFeed.Command.Publish
import PoolFeed.Command.Watch
import PoolFeed.CommandLine.Invocation
import PoolFeed.Settings.File

/-!
# The program

Arguments are read, the settings are resolved, and the command is run. The program ends with 0 if
all went well, with 1 if something failed, and with 2 if its arguments were wrong.
-/

namespace PoolFeed.Program

open Command (Action Progress Remark Surroundings)
open CommandLine (Interruption Invocation Subcommand)
open Database (Server)

/-- The name and the version of the program. -/
def versionLine : String := "whitelist-sync 0.1.0"

/-- How the program is used. -/
def usage : List String :=
  ["Differential pool whitelist publisher for NATS subscribers", "",
    "Usage: whitelist-sync [OPTIONS] <COMMAND>", "", "Commands:",
    "  publish --chain <CHAIN> --file <FILE> [--force-full]",
    "  latest --chain <CHAIN>",
    "  init-schema",
    "  watch --chain <CHAIN> [--channel <minimal|full|all>]",
    "  help", "", "Options:"]
  ++ CommandLine.sharedOptions.map (fun form =>
    s!"  --{form.name}" ++ (if form.takes.isSome then " <VALUE>" else "")
      ++ (form.fallback.map (fun v => s!" [env: {v}]")).getD "")
  ++ ["  --help", "  --version"]

/-- How the program ended and what it left behind. -/
structure Conclusion (α τ : Type) where
  exitCode : Nat
  /-- The text of the failure, if there was one. -/
  complaint : String
  progress : Progress α τ

variable {α τ : Type}

/-- What was printed. -/
def Conclusion.output (c : Conclusion α τ) : String :=
  String.join (c.progress.remarks.map (fun remark =>
    match remark with
    | .printed line => line ++ "\n"
    | .logged _ => ""))

/-- What was printed, and what of the log passes a filter, line by line. -/
def Conclusion.transcript (filter : String) (c : Conclusion α τ) : List String :=
  c.progress.remarks.filterMap (fun remark =>
    match remark with
    | .printed line => some line
    | .logged event => if event.level.passes filter then some event.line else none)

/-- Lines that were printed and nothing else. -/
def printed (lines : List String) : Progress α τ :=
  { Progress.none with remarks := lines.map .printed }

/-- The end of a program that has nothing to do, or does not know what. -/
def interrupted : Interruption → Conclusion α τ
  | .helpAsked => ⟨0, "", printed usage⟩
  | .versionAsked => ⟨0, "", printed [versionLine]⟩
  | .misuse m => ⟨2, s!"error: {m.message}", .none⟩

/-- Runs a command. -/
def perform [Server α] [Transport τ] (s : Settings) (x : Surroundings α τ) :
    Subcommand → Action α τ Unit
  | .publish chain file forceFull => Command.publish s x chain file forceFull
  | .latest chain => Command.latest s x chain
  | .initSchema => Command.initSchema s x
  | .watch chain channel => Command.watch s x chain channel

/-- Does what is asked for. -/
def invoke [Server α] [Transport τ] (i : Invocation) (x : Surroundings α τ) : Action α τ Unit := do
  let s ← Command.require (Settings.resolve x.files i.settingsFile i.overrides)
  Command.report [.configured s.describe]
  perform s { x with acceptsInvalidCertificates := i.acceptsInvalidCertificates } i.subcommand

/-- The end of actions, behind what was left behind before them. -/
def conclude (action : Action α τ Unit) : Conclusion α τ :=
  match action.run .none with
  | (.ok (), progress) => ⟨0, "", progress⟩
  | (.error f, progress) => ⟨1, f.report, progress⟩

/-- Runs the program. -/
def run [Server α] [Transport τ] (environment : String → Option String)
    (arguments : List String) (x : Surroundings α τ) : Conclusion α τ :=
  match CommandLine.readArguments environment arguments with
  | .error i => interrupted i
  | .ok i => conclude (invoke i x)

end PoolFeed.Program
