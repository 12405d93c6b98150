import PoolFeed.Message.Topics
import PoolFeed.Time.Timestamp
import PoolFeed.Whitelist.Basic

/-!
# Change messages

An update of one chain as it is published. Both channels carry the same header and name the same
pools in the same order.
-/

namespace PoolFeed

/-- What all messages of one update have in common. -/
structure Header where
  chain : String
  snapshotId : Int
  timestamp : Timestamp
  deriving DecidableEq, Repr

/-- What an update does, and to which pools. -/
inductive Change where
  | full (records : List PoolRecord)
  | add (records : List PoolRecord)
  | remove (keys : List String)

/-- An update of one chain. -/
structure ChangeMessage where
  header : Header
  change : Change

namespace ChangeMessage

/-- The update that replaces what subscribers hold by a whitelist. -/
def ofWhitelist (header : Header) (w : Whitelist) : ChangeMessage := ⟨header, .full w.records⟩

def kind (m : ChangeMessage) : Kind :=
  match m.change with
  | .full _ => .full
  | .add _ => .add
  | .remove _ => .remove

/-- The keys of the pools of a message, in its order. -/
def keys (m : ChangeMessage) : List String :=
  match m.change with
  | .full records => records.map (·.key)
  | .add records => records.map (·.key)
  | .remove keys => keys

/-- The number of pools of a message. -/
def size (m : ChangeMessage) : Nat :=
  match m.change with
  | .full records => records.length
  | .add records => records.length
  | .remove keys => keys.length

def isEmpty (m : ChangeMessage) : Bool := m.size = 0

/-- The field that lists pools of a message, under the name it has on a channel. -/
def poolsField (m : ChangeMessage) (channel : Channel) : String × Json :=
  match m.change, channel with
  | .full records, .full => ("pools", .array (records.map (·.attributes)))
  | .add records, .full => ("pools", .array (records.map (·.attributes)))
  | .remove keys, .full => ("pool_addresses", .array (keys.map .string))
  | _, .minimal => ("pools", .array (m.keys.map .string))

/-- The fields of a message on a channel, in the order in which they are written. -/
def wireFields (m : ChangeMessage) (channel : Channel) : List (String × Json) :=
  [("type", .string m.kind.name),
   m.poolsField channel,
   ("chain", .string m.header.chain),
   ("timestamp", .string m.header.timestamp.text),
   ("snapshot_id", .number (.integer m.header.snapshotId))]

def encode (m : ChangeMessage) (channel : Channel) : Text.Bytes :=
  Text.encode (Json.object (m.wireFields channel)).chars

end ChangeMessage

end PoolFeed
