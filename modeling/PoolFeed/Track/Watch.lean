import PoolFeed.Track.Tracker

/-!
# Watching a chain

Deliveries of a chain's subjects, each handed to the tracker of the channel its subject belongs to.
A delivery that cannot be used changes nothing.
-/

namespace PoolFeed

/-- The trackers of the channels that are watched. -/
structure Watch where
  topics : Topics
  minimal : Option Tracker
  full : Option Tracker

/-- A payload as it arrives under a subject. -/
structure Delivery where
  subject : String
  payload : Text.Bytes

namespace Watch

def new (topics : Topics) (chain : String) (channels : List Channel) : Watch where
  topics
  minimal := if .minimal ∈ channels then some (.new chain) else none
  full := if .full ∈ channels then some (.new chain) else none

def tracker? (w : Watch) : Channel → Option Tracker
  | .minimal => w.minimal
  | .full => w.full

def setTracker (w : Watch) (channel : Channel) (t : Tracker) : Watch :=
  match channel with
  | .minimal => { w with minimal := some t }
  | .full => { w with full := some t }

/-- Why a delivery cannot be used. -/
inductive Error where
  /-- The subject belongs to no channel. -/
  | unexpectedSubject (subject : String)
  /-- The channel of the subject is not watched. -/
  | notWatching (channel : Channel)
  /-- The payload is no message. -/
  | undecodable (subject : String) (error : InboundMessage.Error)
  deriving Repr

/-- The wordings of an error and of what is behind it, outermost first. -/
def Error.causes : Error → List String
  | .unexpectedSubject subject => [s!"Unexpected subject {subject}"]
  | .notWatching channel => [s!"Not watching the {channel.name} channel"]
  | .undecodable subject e => [s!"Failed to decode message on {subject}", e.message]

/-- The wording of an error on one line. -/
def Error.message (e : Error) : String := ": ".intercalate e.causes

/-- What a delivery came to. -/
structure Handled where
  result : Except Error (Channel × ApplyOutcome)
  watch : Watch
  events : List Event

/-- Decodes a delivery and applies it to the tracker of its channel. -/
def handle (w : Watch) (d : Delivery) : Handled :=
  match w.topics.channelOf? d.subject with
  | none => ⟨.error (.unexpectedSubject d.subject), w, []⟩
  | some channel =>
    -- A channel that is not watched is noticed before its payload is looked at.
    match w.tracker? channel with
    | none => ⟨.error (.notWatching channel), w, []⟩
    | some tracker =>
      match InboundMessage.decode d.payload with
      | .error e => ⟨.error (.undecodable d.subject e), w, []⟩
      | .ok m =>
        let (outcome, tracker', events) := tracker.apply m
        ⟨.ok (channel, outcome), w.setTracker channel tracker', events⟩

def report (chain : String) (h : Handled) : List Event :=
  match h.result with
  | .ok (channel, .applied) =>
    match h.watch.tracker? channel with
    | some t => [.tracking channel chain t.size t.lastSnapshotId]
    | none => []
  | .ok (channel, outcome) => [.ignored channel outcome]
  | .error e => [.refusedDelivery e.message]

/-- Handles deliveries in order. -/
def run (chain : String) (w : Watch) : List Delivery → Watch × List Event
  | [] => (w, [])
  | d :: rest =>
    let h := w.handle d
    let (final, events) := run chain h.watch rest
    (final, h.events ++ report chain h ++ events)

/-- The channels watched for a wish: one of them, or all. -/
def channelsFor : Option Channel → List Channel
  | some channel => [channel]
  | none => Channel.all

/-- The subject or pattern subscribed to for a wish: that of one channel, or of all. -/
def subscription (topics : Topics) (chain : String) : Option Channel → String
  | some channel => topics.subject chain channel
  | none => topics.wildcard chain

/-- How a watch ends. -/
inductive Ending where
  /-- It was told to stop. -/
  | stopped
  /-- It was told to stop because its user wants to. -/
  | interrupted
  /-- There will be no more deliveries. -/
  | closed
  deriving DecidableEq, Repr

/-- What is reported of an ending. -/
def Ending.events (chain : String) : Ending → List Event
  | .stopped => [.watchStopped chain]
  | .interrupted => [.interrupted, .watchStopped chain]
  | .closed => [.watchClosed chain]

/-- Subscribes to a chain and handles what is delivered until the end. -/
def follow (topics : Topics) (chain : String) (wish : Option Channel) (deliveries : List Delivery)
    (ending : Ending) : Watch × List Event :=
  let (final, events) := run chain (new topics chain (channelsFor wish)) deliveries
  (final, .subscribing (subscription topics chain wish) :: events ++ ending.events chain)

end Watch

end PoolFeed
