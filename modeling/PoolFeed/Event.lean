import PoolFeed.Sync.Error
import PoolFeed.Time.Duration
import PoolFeed.Track.Outcome

/-!
# Log events

Everything the library reports while it works, as data. The wording of each event and its level
stand here and nowhere else.
-/

namespace PoolFeed

/-- How much an event matters. -/
inductive Level where
  | error
  | warn
  | info
  | debug
  deriving DecidableEq, Repr

def Level.name : Level → String
  | .error => "ERROR"
  | .warn => "WARN"
  | .info => "INFO"
  | .debug => "DEBUG"

/-- How far a level is from mattering most. -/
def Level.distance : Level → Nat
  | .error => 0
  | .warn => 1
  | .info => 2
  | .debug => 3

/-- Whether a filter lets a level through: the name of a level, of all of them, or of none. -/
def Level.passes (filter : String) (level : Level) : Bool :=
  match filter with
  | "off" => false
  | "warn" => level.distance ≤ 1
  | "info" => level.distance ≤ 2
  | "debug" => true
  | "trace" => true
  | _ => level.distance = 0

/-- Something worth a line in the log. -/
inductive Event where
  /-- A tracker dropped an update. -/
  | droppedStale (kind : Kind) (id : Int) (chain : String) (last : Int)
  /-- Both channels took an update. -/
  | published (kind : Kind) (size : Nat) (chain : String) (id : Int)
  /-- Only the minimal channel took an update. -/
  | partlyPublished (kind : Kind) (chain : String) (id : Int) (delivered failed reason : String)
  /-- A cycle found nothing to publish. -/
  | unchanged (chain : String) (since : Int)
  /-- A published snapshot could not be stored. -/
  | notStored (id : Int) (chain : String) (failure : SyncError)
  /-- A cycle succeeded. -/
  | synced (result : UpdateResult)
  /-- An operation failed and will be tried again. -/
  | retrying (attempt attempts : Nat) (delay : Duration)
  | schemaVerified
  | nothingStored (chain : String)
  | loaded (size : Nat) (id : Int) (chain : String)
  | stored (id : Int) (size : Nat) (chain : String)
  /-- A connection to the database at a masked URL is attempted. -/
  | openingStore (url : String)
  | databaseConnected (url : String)
  | invalidCertificatesAccepted
  | brokerConnecting (url : String)
  | brokerConnected
  | subscribing (subject : String)
  /-- An update was applied to a watched channel. -/
  | tracking (channel : Channel) (chain : String) (size : Nat) (last : Option Int)
  /-- An update was not applied to a watched channel. -/
  | ignored (channel : Channel) (outcome : ApplyOutcome)
  /-- A delivery could not be used. -/
  | refusedDelivery (reason : String)
  | watchStopped (chain : String)
  | watchClosed (chain : String)
  | interrupted
  | fileLoaded (size : Nat) (chain file : String)
  /-- The caller is told to send everything next time. -/
  | resyncNeeded (chain : String)
  | configured (summary : String)

namespace Event

/-- An optional id as it is written in the log. -/
def idTitle : Option Int → String
  | some id => s!"Some({id})"
  | none => "None"

def level : Event → Level
  | .partlyPublished .. | .resyncNeeded _ => .error
  | .notStored .. | .retrying .. | .invalidCertificatesAccepted | .refusedDelivery _
  | .watchClosed _ => .warn
  | .droppedStale .. | .published .. | .databaseConnected _ | .ignored .. | .configured _ => .debug
  | _ => .info

def message : Event → String
  | .droppedStale kind id chain last =>
    s!"Dropping stale {kind.name} update {id} for {chain} (last applied {last})"
  | .published kind size chain id =>
    s!"Published {kind.name} update: {size} pools for {chain} (snapshot {id})"
  | .partlyPublished kind chain id delivered failed reason =>
    s!"Partial publish of {kind.name} update for {chain} (snapshot {id}): "
      ++ s!"{delivered} delivered, {failed} failed: {reason}"
  | .unchanged chain since => s!"No whitelist changes for {chain} since snapshot {since}"
  | .notStored id chain failure =>
    s!"Published snapshot {id} for {chain} but could not store it: {failure.message}"
  | .synced r =>
    s!"Synced {r.chain} ({r.mode.name} mode): snapshot {r.snapshotId}, {r.total} pools, "
      ++ s!"+{r.added} -{r.removed}"
  | .retrying attempt attempts delay =>
    s!"Operation failed (attempt {attempt}/{attempts}), retrying in {delay.text}..."
  | .schemaVerified => "Whitelist snapshot schema verified"
  | .nothingStored chain => s!"No previous whitelist found for {chain}"
  | .loaded size id chain => s!"Loaded {size} pools from snapshot {id} for {chain}"
  | .stored id size chain => s!"Stored snapshot {id}: {size} pools for {chain}"
  | .openingStore url => s!"Connecting to snapshot store at {url}"
  | .databaseConnected url => s!"Connected to {url}"
  | .invalidCertificatesAccepted =>
    "Accepting invalid TLS certificates for PostgreSQL connections"
  | .brokerConnecting url => s!"Connecting to NATS at {url}"
  | .brokerConnected => "Connected to NATS successfully"
  | .subscribing subject => s!"Subscribing to NATS subject: {subject}"
  | .tracking channel chain size last =>
    s!"[{channel.name}] {chain} now tracks {size} pools (snapshot {idTitle last})"
  | .ignored channel outcome => s!"[{channel.name}] ignored update: {outcome.title}"
  | .refusedDelivery reason => reason
  | .watchStopped chain => s!"Stopping whitelist watch for {chain}"
  | .watchClosed chain => s!"Whitelist subscription for {chain} closed"
  | .interrupted => "Received shutdown signal"
  | .fileLoaded size chain file => s!"Loaded {size} pools for {chain} from {file}"
  | .resyncNeeded chain =>
    s!"Subscribers of {chain} may be out of step; rerun with --force-full"
  | .configured summary => s!"Configuration: {summary}"

def line (e : Event) : String := e.level.name ++ " " ++ e.message

end Event

end PoolFeed
