import PoolFeed.Database.Opening
import PoolFeed.Database.Store
import PoolFeed.Files
import PoolFeed.Settings.Basic
import PoolFeed.Sync.Request
import PoolFeed.Track.Watch
import PoolFeed.Transport.Broker

/-!
# Actions of the program

A command is a row of actions, each of which may fail. What a command finds outside of the program
is given as data. What it leaves behind stays, whether it fails or not: its remarks, and what its
database and its broker have come to.
-/

namespace PoolFeed

/-- The failure that a failed sync cycle is for a program. -/
def SyncError.failure (e : SyncError) : Failure := ⟨e.causes, false⟩

namespace Command

open Database (Connection DatabaseStore Opening Server)

/-- What a command finds outside of the program. -/
structure Surroundings (α τ : Type) where
  files : Files
  /-- What each attempt to reach the database reaches. -/
  database : Nat → Option α
  /-- What is reached at the URL of a broker, or why nothing is. -/
  broker : String → Except Failure τ
  /-- What is delivered to a subscription. -/
  deliveries : List Delivery
  /-- How a subscription ends. -/
  ending : Watch.Ending
  now : Timestamp
  acceptsInvalidCertificates : Bool

/-- What a command shows. -/
inductive Remark where
  /-- A line of output. -/
  | printed (line : String)
  | logged (event : Event)

/-- What a command leaves behind. -/
structure Progress (α τ : Type) where
  remarks : List Remark
  /-- The pauses between attempts to reach the database. -/
  pauses : List Duration
  connection : Option (Connection α)
  broker : Option τ
  /-- The subjects and patterns subscribed to. -/
  subscribed : List String

/-- Nothing is left behind. -/
def Progress.none {α τ : Type} : Progress α τ := ⟨[], [], .none, .none, []⟩

/-- A part of a command. -/
abbrev Action (α τ β : Type) : Type := ExceptT Failure (StateM (Progress α τ)) β

variable {α τ β : Type}

def print (line : String) : Action α τ Unit :=
  modify (fun p => { p with remarks := p.remarks ++ [.printed line] })

def report (events : List Event) : Action α τ Unit :=
  modify (fun p => { p with remarks := p.remarks ++ events.map .logged })

/-- Fails unless there is a result. -/
def require : Except Failure β → Action α τ β
  | .ok b => pure b
  | .error f => throw f

/-- Fails unless a chain can be part of a subject. -/
def requireChain (chain : String) : Action α τ Unit :=
  require ((ChainName.check chain).mapError (fun e => .ofMessage e.message))

def openStore [Server α] (s : Settings) (x : Surroundings α τ) : Action α τ (DatabaseStore α) := do
  let url ← require s.requireDatabase
  report [.openingStore (Url.maskPassword url)]
  let opening : Opening := ⟨url, s.storeTimeout, x.acceptsInvalidCertificates⟩
  let run := opening.run x.database
  report run.events
  modify ({ · with pauses := run.pauses })
  match opening.result x.database with
  | .error f => throw (f.within "Failed to connect to snapshot store")
  | .ok connection =>
    modify ({ · with connection := some connection })
    return ⟨connection, s.storeTimeout⟩

def askStore (f : DatabaseStore α → Answer (DatabaseStore α) β) (store : DatabaseStore α) :
    Action α τ (β × DatabaseStore α) := do
  let a := f store
  report a.events
  modify ({ · with connection := some a.store.connection })
  match a.result with
  | .error e => throw e.failure
  | .ok b => return (b, a.store)

/-- Connects to the broker that settings name. -/
def openBroker (s : Settings) (x : Surroundings α τ) : Action α τ τ := do
  report [.brokerConnecting s.brokerUrl]
  match x.broker s.brokerUrl with
  | .error f => throw (f.within s!"Failed to connect to NATS at {s.brokerUrl}")
  | .ok broker =>
    report [.brokerConnected]
    modify ({ · with broker := some broker })
    return broker

end Command

end PoolFeed
