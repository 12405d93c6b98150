import PoolFeed.CommandLine.Options
import PoolFeed.Settings.Basic

/-!
# Invocations

What the program is asked to do. Some options may stand in front of the command or behind it, and
some have a variable of the environment as a fallback: what stands behind the command wins over
what stands in front of it, and both win over the variable.
-/

namespace PoolFeed.CommandLine

/-- What is asked for. -/
inductive Subcommand where
  | publish (chain file : String) (forceFull : Bool)
  | latest (chain : String)
  | initSchema
  /-- To follow a chain on one channel, or on all of them. -/
  | watch (chain : String) (channel : Option Channel)
  deriving DecidableEq, Repr

/-- What is asked for, and how. -/
structure Invocation where
  settingsFile : Option String
  overrides : Settings.Overrides
  acceptsInvalidCertificates : Bool
  /-- The least level of events that are shown. -/
  logFilter : String
  subcommand : Subcommand
  deriving DecidableEq, Repr

def Invocation.files (i : Invocation) : List String :=
  i.settingsFile.toList ++ (match i.subcommand with
    | .publish _ file _ => [file]
    | _ => [])

/-! ## Values -/

/-- The largest count that an option takes. -/
def maxCount : Nat := (1 <<< 64) - 1

def digitsValue (cs : List Char) : Nat := cs.foldl (fun n c => 10 * n + (c.toNat - 48)) 0

/-- A count: digits, perhaps behind a plus sign. -/
def count? (s : String) : Option Nat :=
  let digits := match s.toList with
    | '+' :: cs => cs
    | cs => cs
  if digits.isEmpty || !digits.all Char.isDigit then none
  else if digitsValue digits ≤ maxCount then some (digitsValue digits) else none

/-- The names of the channels that can be followed, with what they stand for. -/
def channelNames : List (String × Option Channel) :=
  Channel.all.map (fun c => (c.name, some c)) ++ [("all", none)]

/-! ## Forms -/

def switch (name : String) : OptionForm := ⟨name, none, none⟩

/-- An option with any text for a value. -/
def textOption (name : String) (fallback : Option String) : OptionForm :=
  ⟨name, some (fun _ => true), fallback⟩

/-- An option with the path of a file for a value, which cannot be empty. -/
def pathOption (name : String) (fallback : Option String) : OptionForm :=
  ⟨name, some (fun v => v ≠ ""), fallback⟩

def countOption (name : String) (fallback : Option String) : OptionForm :=
  ⟨name, some (fun v => (count? v).isSome), fallback⟩

/-- The options that may stand at both levels. -/
def sharedOptions : List OptionForm :=
  [pathOption "config" (some "WHITELIST_CONFIG"),
    textOption "database-url" (some "WHITELIST_DATABASE_URL"),
    textOption "nats-url" (some "WHITELIST_NATS_URL"),
    textOption "namespace" (some "WHITELIST_NAMESPACE"),
    countOption "publish-timeout" (some "WHITELIST_PUBLISH_TIMEOUT"),
    countOption "store-timeout" (some "WHITELIST_STORE_TIMEOUT"),
    switch "allow-self-signed-certs",
    textOption "log" none]

/-- The options of a command and those of them that have to be given. -/
def commandOptions : String → List OptionForm × List String
  | "publish" =>
    ([textOption "chain" none, pathOption "file" none, switch "force-full"], ["chain", "file"])
  | "latest" => ([textOption "chain" none], ["chain"])
  | "watch" =>
    ([textOption "chain" none,
      ⟨"channel", some (fun v => (channelNames.lookup v).isSome), none⟩], ["chain"])
  | _ => ([], [])

def commandNames : List String := ["publish", "latest", "init-schema", "watch"]

/-- The command that explains the others. -/
def helpCommand : String := "help"

def outerLevel : Level := ⟨sharedOptions, helpCommand :: commandNames, true⟩

def innerLevel (command : String) : Level :=
  ⟨sharedOptions ++ (commandOptions command).1, [], false⟩

/-! ## Reading -/

/-- What was given at both levels, and the environment. -/
structure Sources where
  outer : Given
  inner : Given
  environment : String → Option String

namespace Sources

def value? (s : Sources) (form : OptionForm) : Option String :=
  (s.inner.lookup form.name).or ((s.outer.lookup form.name).or (form.fallback.bind s.environment))

def named? (s : Sources) (forms : List OptionForm) (name : String) : Option String :=
  (forms.find? (·.name = name)).bind s.value?

/-- Whether a switch is given at either level. -/
def isOn (s : Sources) (name : String) : Bool := s.inner.has name || s.outer.has name

/-- An option whose fallback has to stand in at a level and cannot. -/
def badFallback? (s : Sources) : Option OptionForm :=
  sharedOptions.find? (fun form =>
    (form.fallback.bind s.environment).any (!form.accepts ·)
      && !(s.inner.has form.name && s.outer.has form.name))

end Sources

def missing? (given : Given) (required : List String) : Option String :=
  required.find? (!given.has ·)

def subcommandOf (name : String) (given : Given) : Subcommand :=
  let value (option : String) := (given.lookup option).getD ""
  match name with
  | "publish" => .publish (value "chain") (value "file") (given.has "force-full")
  | "latest" => .latest (value "chain")
  | "watch" => .watch (value "chain") ((channelNames.lookup (value "channel")).getD none)
  | _ => .initSchema

/-- The invocation that was read. -/
def invocationOf (s : Sources) (command : String) : Invocation :=
  let value? := s.named? sharedOptions
  { settingsFile := value? "config"
    overrides :=
      { databaseUrl := value? "database-url"
        brokerUrl := value? "nats-url"
        namespaceText := value? "namespace"
        publishSeconds := (value? "publish-timeout").bind count?
        storeSeconds := (value? "store-timeout").bind count? }
    acceptsInvalidCertificates := s.isOn "allow-self-signed-certs"
    logFilter := (value? "log").getD "info"
    subcommand := subcommandOf command s.inner }

/-- What asking for help comes to, given what is behind that. -/
def explain : List String → Interruption
  | [] => .helpAsked
  | [topic] =>
    if topic ∈ outerLevel.commands then .helpAsked else .misuse (.unknownWord topic)
  | _ :: word :: _ => .misuse (.unknownWord word)

def readCommand (environment : String → Option String) (outer : Given) (command : String)
    (arguments : List String) : Except Interruption Invocation :=
  match readLevel (innerLevel command) arguments with
  | .error i => .error i
  | .ok reading =>
    let s : Sources := ⟨outer, reading.given, environment⟩
    match missing? reading.given (commandOptions command).2, s.badFallback? with
    | some name, _ => .error (.misuse (.missingOption name))
    | none, some form =>
      .error (.misuse (.refusedValue form.name ((form.fallback.bind environment).getD "")))
    | none, none => .ok (invocationOf s command)

def readArguments (environment : String → Option String) (arguments : List String) :
    Except Interruption Invocation :=
  match readLevel outerLevel arguments with
  | .error i => .error i
  | .ok ⟨_, none⟩ => .error (.misuse .noCommand)
  | .ok ⟨outer, some (command, rest)⟩ =>
    if command = helpCommand then .error (explain rest)
    else readCommand environment outer command rest

end PoolFeed.CommandLine
