import PoolFeed.Backoff
import PoolFeed.ConnectionString
import PoolFeed.Database.Connection
import PoolFeed.Failure

/-!
# Opening a connection

A connection is opened to the URL of a database. The URL is checked before anything is reached, and
a new connection is told how long its statements may run. What fails is tried again. Making ready
for encryption is taken to succeed, so there is no "Failed to build TLS connector" here.
-/

namespace PoolFeed.Database

/-- What is asked of a new connection. -/
structure Opening where
  url : String
  /-- How long a statement may run. -/
  statementLimit : Duration
  /-- Whether a certificate is accepted that nobody vouches for. -/
  acceptsInvalidCertificates : Bool

namespace Opening

variable {α : Type} [Server α]

/-- What is reported of the certificates that are accepted. -/
def certificateEvents (o : Opening) : List Event :=
  if o.acceptsInvalidCertificates then [.invalidCertificatesAccepted] else []

/-- The first thing that a new connection is told. -/
def greet (o : Opening) (server : α) : Execution α (List Row) :=
  (Connection.new server).execute .longest .zero (.limitTime o.statementLimit.milliseconds)

/-- One attempt, given what is reached at the URL. -/
def attempt (o : Opening) (reached : Option α) : Backoff.Attempt Failure (Connection α) :=
  match ConnectionString.check o.url with
  | .error e => ⟨.error (.ofMessage e.message), []⟩
  | .ok () =>
    match reached with
    | none =>
      ⟨.error (.foreign s!"Failed to connect to {Url.maskPassword o.url}"), o.certificateEvents⟩
    | some server =>
      let e := o.greet server
      match e.result with
      | .error _ => ⟨.error (.foreign "Failed to set statement_timeout"), o.certificateEvents⟩
      | .ok _ =>
        ⟨.ok e.connection, o.certificateEvents ++ [.databaseConnected (Url.maskPassword o.url)]⟩

/-- How often an attempt is repeated. -/
def maxRetries : Nat := 3

/-- The pause behind the first attempt. -/
def firstPause : Duration := .ofSeconds 1

/-- Attempts until one succeeds, given what each of them reaches. -/
def run (o : Opening) (reached : Nat → Option α) : Backoff.Run Failure (Connection α) :=
  Backoff.retry maxRetries firstPause (fun n => o.attempt (reached n))

theorem run_ending_ne_overflow (o : Opening) (reached : Nat → Option α) :
    (o.run reached).ending ≠ .overflow :=
  Backoff.retry_ending_ne_overflow _ _ _ (by decide) (by decide)

/-- The connection, if one of the attempts succeeded. -/
def result (o : Opening) (reached : Nat → Option α) : Except Failure (Connection α) :=
  (o.run reached).ending.result (.ofMessage Backoff.unexplained) (o.run_ending_ne_overflow reached)

end Opening

end PoolFeed.Database
