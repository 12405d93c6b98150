/-!
# Options on a command line

The arguments of a program are read level by level. A level has options, which stand in any order,
and may have commands, the first of which ends the level and begins the next one. An option with a
value is written `--name value` or `--name=value`; a value that stands alone does not begin with a
dash, unless it is a single one.
-/

namespace PoolFeed.CommandLine

/-- An option of a level. -/
structure OptionForm where
  /-- Its name, without the dashes. -/
  name : String
  /-- Which values it takes. A switch takes none. -/
  takes : Option (String → Bool)
  /-- The variable of the environment that is used where the option is not given. -/
  fallback : Option String

/-- What may stand at a level. -/
structure Level where
  options : List OptionForm
  commands : List String
  /-- Whether the version of the program can be asked for. -/
  tellsVersion : Bool

/-- How arguments can be wrong. -/
inductive Misuse where
  | unknownOption (token : String)
  | unknownWord (token : String)
  | repeatedOption (name : String)
  | missingValue (name : String)
  | needlessValue (name : String)
  | refusedValue (name value : String)
  | missingOption (name : String)
  | noCommand
  deriving DecidableEq, Repr

/-- The wording of a misuse. -/
def Misuse.message : Misuse → String
  | .unknownOption token => s!"unexpected option '{token}'"
  | .unknownWord token => s!"unexpected word '{token}'"
  | .repeatedOption name => s!"option '--{name}' is given more than once"
  | .missingValue name => s!"option '--{name}' needs a value"
  | .needlessValue name => s!"option '--{name}' takes no value"
  | .refusedValue name value => s!"option '--{name}' does not take '{value}'"
  | .missingOption name => s!"option '--{name}' is required"
  | .noCommand => "a command is required"

/-- Why reading arguments ends early. -/
inductive Interruption where
  | helpAsked
  | versionAsked
  | misuse (m : Misuse)
  deriving DecidableEq, Repr

/-- The options given at a level with their values, first one first. A switch has an empty value. -/
abbrev Given := List (String × String)

/-- What was read of a level. -/
structure Reading where
  given : Given
  /-- The command that ended the level, and the arguments behind it. -/
  command : Option (String × List String)

/-! ## Tokens -/

/-- What an argument looks like. -/
inductive Token where
  /-- A word, which may be a value. -/
  | word
  /-- The two dashes behind which there are no more options. -/
  | noMoreOptions
  /-- A dash and letters, the first of which counts. -/
  | letter (c : Char)
  /-- Two dashes, a name, and perhaps a value. -/
  | option (name : String) (value : Option String)
  deriving DecidableEq, Repr

/-- A name and what stands behind the first equals sign, if there is one. -/
def splitValue (cs : List Char) : String × Option String :=
  let name := String.ofList (cs.takeWhile (· ≠ '='))
  match cs.dropWhile (· ≠ '=') with
  | [] => (name, none)
  | _ :: value => (name, some (String.ofList value))

/-- What an argument looks like. -/
def Token.ofText (argument : String) : Token :=
  match argument.toList with
  | ['-', '-'] => .noMoreOptions
  | '-' :: '-' :: cs => .option (splitValue cs).1 (splitValue cs).2
  | '-' :: c :: _ => .letter c
  | _ => .word

/-! ## Levels -/

namespace Level

def form? (l : Level) (name : String) : Option OptionForm := l.options.find? (·.name = name)

/-- What a name asks for instead of work. -/
def request? (l : Level) (name : String) : Option Interruption :=
  if name = "help" then some .helpAsked
  else if l.tellsVersion && name = "version" then some .versionAsked
  else none

/-- What a letter asks for. -/
def ofLetter (l : Level) (c : Char) : Interruption :=
  if c = 'h' then .helpAsked
  else if l.tellsVersion && c = 'V' then .versionAsked
  else .misuse (.unknownOption s!"-{c}")

end Level

def OptionForm.accepts (form : OptionForm) (value : String) : Bool :=
  (form.takes.map (· value)).getD true

/-- Whether an option is among the given ones. -/
def Given.has (given : Given) (name : String) : Bool := given.any (fun g => g.1 = name)

/-- The options given, one more among them. -/
def Given.add (given : Given) (form : OptionForm) (value : String) : Except Interruption Given :=
  if given.has form.name then .error (.misuse (.repeatedOption form.name))
  else if form.accepts value then .ok (given ++ [(form.name, value)])
  else .error (.misuse (.refusedValue form.name value))

/-- Reads a level, behind the options that were given already. -/
def readFrom (l : Level) (given : Given) : List String → Except Interruption Reading
  | [] => .ok ⟨given, none⟩
  | argument :: rest =>
    if argument ∈ l.commands then .ok ⟨given, some (argument, rest)⟩
    else
      match Token.ofText argument with
      | .word => .error (.misuse (.unknownWord argument))
      | .noMoreOptions =>
        match rest with
        | [] => .ok ⟨given, none⟩
        | word :: _ => .error (.misuse (.unknownWord word))
      | .letter c => .error (l.ofLetter c)
      | .option name value =>
        match l.request? name, l.form? name with
        | some request, _ =>
          .error (if value.isSome then .misuse (.needlessValue name) else request)
        | none, none => .error (.misuse (.unknownOption argument))
        | none, some form =>
          match form.takes, value with
          | none, some _ => .error (.misuse (.needlessValue name))
          | none, none =>
            match given.add form "" with
            | .error i => .error i
            | .ok given' => readFrom l given' rest
          | some _, some value =>
            match given.add form value with
            | .error i => .error i
            | .ok given' => readFrom l given' rest
          | some _, none =>
            match rest with
            | [] => .error (.misuse (.missingValue name))
            | value :: rest' =>
              if Token.ofText value ≠ .word then .error (.misuse (.missingValue name))
              else
                match given.add form value with
                | .error i => .error i
                | .ok given' => readFrom l given' rest'

def readLevel (l : Level) (arguments : List String) : Except Interruption Reading :=
  readFrom l [] arguments

end PoolFeed.CommandLine
