import PoolFeed.ConnectionString
import PoolFeed.Failure
import PoolFeed.Message.Topics
import PoolFeed.Text.Blank
import PoolFeed.Time.Duration

/-!
# Settings

Where the program finds its database and its broker, under which namespace it publishes, and how
much time it gives to each.

## Main statements

* `Settings.topics_root` — subjects begin with the namespace, the blanks around it left out
-/

namespace PoolFeed

/-- What the program has to know. -/
structure Settings where
  databaseUrl : Option String
  brokerUrl : String
  namespaceText : String
  publishSeconds : Nat
  storeSeconds : Nat
  deriving DecidableEq, Repr

namespace Settings

/-- The settings that hold where nothing else is said. -/
def default : Settings where
  databaseUrl := none
  brokerUrl := "nats://localhost:4222"
  namespaceText := Topics.defaultNamespace
  publishSeconds := 5
  storeSeconds := 30

instance : Inhabited Settings := ⟨default⟩

/-- Settings that are said in place of others. -/
structure Overrides where
  databaseUrl : Option String
  brokerUrl : Option String
  namespaceText : Option String
  publishSeconds : Option Nat
  storeSeconds : Option Nat
  deriving DecidableEq, Repr

/-- Nothing is said. -/
def Overrides.none : Overrides := ⟨.none, .none, .none, .none, .none⟩

/-- Settings with others in their place where those are said. -/
def override (s : Settings) (o : Overrides) : Settings where
  databaseUrl := o.databaseUrl.or s.databaseUrl
  brokerUrl := o.brokerUrl.getD s.brokerUrl
  namespaceText := o.namespaceText.getD s.namespaceText
  publishSeconds := o.publishSeconds.getD s.publishSeconds
  storeSeconds := o.storeSeconds.getD s.storeSeconds

/-- Why settings cannot be used. -/
inductive Error where
  | databaseUrl (error : ConnectionString.Error)
  | noBrokerUrl
  | illegalNamespace (text : String)
  | noTime
  deriving DecidableEq, Repr

/-- The messages of an error. -/
def Error.failure : Error → Failure
  | .databaseUrl e => (Failure.ofMessage e.message).within "Invalid database_url"
  | .noBrokerUrl => .ofMessage "nats_url cannot be empty"
  | .illegalNamespace text =>
    .ofMessage s!"Invalid namespace '{text}': expected dot-separated tokens without wildcards"
  | .noTime => .ofMessage "Timeouts must be at least one second"

/-- Whether subjects may begin with a namespace. -/
def isNamespace (text : List Char) : Bool :=
  !text.isEmpty && text.head? ≠ some '.' && text.getLast? ≠ some '.'
    && text.all (fun c => c ≠ '*' && c ≠ '>' && c ≠ ' ')

/-- Accepts the settings that can be used. -/
def check (s : Settings) : Except Error Unit :=
  match s.databaseUrl.map ConnectionString.check with
  | some (.error e) => .error (.databaseUrl e)
  | _ =>
    if (Text.trim s.brokerUrl.toList).isEmpty then .error .noBrokerUrl
    else if !isNamespace (Text.trim s.namespaceText.toList) then
      .error (.illegalNamespace s.namespaceText)
    else if s.publishSeconds = 0 ∨ s.storeSeconds = 0 then .error .noTime
    else .ok ()

/-- The subjects that are published under. -/
def topics (s : Settings) : Topics := ⟨Text.trimmed s.namespaceText⟩

/-- Subjects begin with the namespace, the blanks around it left out. -/
theorem topics_root (s : Settings) : s.topics.root.toList = Text.trim s.namespaceText.toList := by
  simp [topics, Text.trimmed]

/-- The time an emission has. -/
def publishTimeout (s : Settings) : Duration := .ofSeconds s.publishSeconds

/-- The time an operation of the store has. -/
def storeTimeout (s : Settings) : Duration := .ofSeconds s.storeSeconds

/-- The settings on one line, with passwords masked. -/
def describe (s : Settings) : String :=
  let database := (s.databaseUrl.map Url.maskPassword).getD "<unset>"
  s!"database={database} nats={Url.maskPassword s.brokerUrl} namespace={s.namespaceText} "
    ++ s!"publish_timeout={s.publishSeconds}s store_timeout={s.storeSeconds}s"

/-- The failure of a program that needs a database and was not told of one. -/
def databaseMissing : Failure :=
  .ofMessage ("Database URL not provided. Use `--database-url`, WHITELIST_DATABASE_URL, "
    ++ "or `database_url` in the config file.")

/-- The URL of the database, for programs that need one. -/
def requireDatabase (s : Settings) : Except Failure String :=
  match s.databaseUrl with
  | some url => .ok url
  | none => .error databaseMissing

end Settings

end PoolFeed
