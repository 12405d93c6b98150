import PoolFeed.Database.Tables
import PoolFeed.Decimal.Shortest
import PoolFeed.Json.Skip
import PoolFeed.Main
import PoolFeed.Program
import PoolFeed.Snapshot.Memory
import PoolFeed.Sync.Schedule
import PoolFeed.Transport.Recording
import PoolFeed.Whitelist.Diff
import PoolFeed.Proofs.Roundtrip.Numbers
import PoolFeed.Proofs.Roundtrip.Values
import PoolFeed.Proofs.Roundtrip.Messages
import PoolFeed.Proofs.Whitelist.Keys
import PoolFeed.Proofs.Whitelist.Stored
import PoolFeed.Proofs.Track.Feed
import PoolFeed.Proofs.Track.Update
import PoolFeed.Proofs.Track.Namespaces
import PoolFeed.Proofs.Snapshot.Memory
import PoolFeed.Proofs.Sync.Accounting
import PoolFeed.Proofs.Sync.Recorded
import PoolFeed.Proofs.Sync.Session
import PoolFeed.Proofs.Sync.Convergence
import PoolFeed.Proofs.Sync.Interruption
import PoolFeed.Proofs.Track.Delivery
import PoolFeed.Proofs.Sync.Succession
import PoolFeed.Proofs.Sync.Delivery
import PoolFeed.Proofs.Roundtrip.Times
import PoolFeed.Proofs.Roundtrip.Accepted
import PoolFeed.Proofs.Sync.Ordering
import PoolFeed.Proofs.Sync.Independence
import PoolFeed.Proofs.Sync.Serialization
import PoolFeed.Proofs.Database.Storing
import PoolFeed.Proofs.Database.Acknowledgment
import PoolFeed.Proofs.Database.Placeholders
import PoolFeed.Proofs.Database.Retrieval
import PoolFeed.Proofs.Database.Agreement
import PoolFeed.Proofs.Database.Operations
import PoolFeed.Proofs.Sync.Steps
import PoolFeed.Proofs.Sync.Announced
import PoolFeed.Proofs.Database.Isolation
import PoolFeed.Proofs.Database.Atomicity
import PoolFeed.Proofs.Track.History
import PoolFeed.Proofs.Track.Channels
import PoolFeed.Proofs.Sync.Abandonment
import PoolFeed.Proofs.Program.Quiet
import PoolFeed.Proofs.Program.Secrecy
import PoolFeed.Proofs.Whitelist.Records
import PoolFeed.Proofs.Whitelist.Difference
import PoolFeed.Proofs.Whitelist.Intake
import PoolFeed.Proofs.Sync.Unchanged
import PoolFeed.Proofs.Database.OlderRows
import PoolFeed.Proofs.Whitelist.Canonical
import PoolFeed.Proofs.Sync.Published
import PoolFeed.Proofs.Snapshot.FirstWrite
import PoolFeed.Proofs.Sync.Alarm
import PoolFeed.Proofs.Message.Tokens
import PoolFeed.Proofs.Track.Addressing
import PoolFeed.Proofs.Snapshot.Allocation
import PoolFeed.Proofs.Backoff.Schedule
import PoolFeed.Proofs.Roundtrip.Numerals
import PoolFeed.Proofs.Roundtrip.Extent
import PoolFeed.Proofs.Roundtrip.Arrivals
import PoolFeed.Proofs.Track.Consistency
