import PoolFeed.Event
import PoolFeed.Message.Change
import PoolFeed.Transport.Basic

/-!
# Publishing messages

Every message goes out on the minimal channel and then on the full channel. Each of the two
emissions is given only so much time. If the first one fails nothing was delivered; if only the
second one fails, the channels disagree.
-/

namespace PoolFeed

/-- Where messages are published, and how long one emission may take. -/
structure Publisher where
  topics : Topics
  timeout : Duration

/-- What sending came to, how the transport is left behind, and how long it took. -/
structure Sent (τ : Type) where
  result : Except SyncError Unit
  transport : τ
  delay : Duration
  events : List Event

namespace Publisher

variable {τ : Type} [Transport τ]

/-- The time an emission has if nothing else is said. -/
def defaultTimeout : Duration := .ofSeconds 5

/-- Sends a payload, unless that takes too long. -/
def emit (p : Publisher) (subject : String) (payload : Text.Bytes) (t : τ) : Emission τ :=
  let e := Transport.publish subject payload t
  if e.delay.nanoseconds ≤ p.timeout.nanoseconds then e
  else ⟨.error s!"timed out after {p.timeout.text}", e.transport, p.timeout⟩

def failure (p : Publisher) (m : ChangeMessage) (channel : Channel) (reason : String) :
    SyncError :=
  match channel with
  | .minimal => .transportUnavailable (p.topics.subject m.header.chain .minimal) reason
  | .full => .partialPublish m.kind .minimal .full reason

/-- What is reported of a message that failed on a channel. -/
def failureEvents (p : Publisher) (m : ChangeMessage) (channel : Channel) (reason : String) :
    List Event :=
  match channel with
  | .minimal => []
  | .full =>
    [.partlyPublished m.kind m.header.chain m.header.snapshotId
      (p.topics.subject m.header.chain .minimal) (p.topics.subject m.header.chain .full) reason]

/-- What is reported of a message that a channel took. -/
def successEvents (m : ChangeMessage) (channel : Channel) : List Event :=
  match channel with
  | .minimal => []
  | .full => [.published m.kind m.size m.header.chain m.header.snapshotId]

def send (p : Publisher) (m : ChangeMessage) (channel : Channel) (t : τ) : Sent τ :=
  let e := p.emit (p.topics.subject m.header.chain channel) (m.encode channel) t
  match e.result with
  | .ok () => ⟨.ok (), e.transport, e.delay, successEvents m channel⟩
  | .error reason =>
    ⟨.error (p.failure m channel reason), e.transport, e.delay, p.failureEvents m channel reason⟩

/-- Sends a message on both channels. -/
def publish (p : Publisher) (m : ChangeMessage) (t : τ) : Sent τ :=
  let first := p.send m .minimal t
  match first.result with
  | .error _ => first
  | .ok () =>
    let second := p.send m .full first.transport
    { second with
      delay := first.delay.plus second.delay
      events := first.events ++ second.events }

end Publisher

end PoolFeed
