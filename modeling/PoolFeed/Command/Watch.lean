import PoolFeed.Command.Action

/-!
# Following a chain

Follows what is published of a chain and shows in the end what came of it. A broker that was reached
takes the subscription, so "Failed to subscribe to" a subject is left out, and so is the warning
"Failed to listen for Ctrl+C", behind which nobody can stop the watch but the broker.
-/

namespace PoolFeed.Command

variable {α τ : Type}

/-- A tracked channel as it is printed. -/
def trackerLine (channel : Channel) (t : Tracker) : String :=
  let last := (t.lastSnapshotId.map toString).getD "none"
  s!"[{channel.name}] {t.size} pools tracked, last snapshot {last}"

/-- The tracked channels as they are printed. -/
def trackerLines (w : PoolFeed.Watch) : List String :=
  Channel.all.filterMap (fun channel => (w.tracker? channel).map (trackerLine channel))

/-- Follows a chain on one channel, or on all of them. -/
def watch (s : Settings) (x : Surroundings α τ) (chain : String) (wish : Option Channel) :
    Action α τ Unit := do
  requireChain chain
  let _ ← openBroker s x
  print s!"Watching whitelist updates for {chain} (Ctrl+C to stop)"
  modify ({ · with subscribed := [Watch.subscription s.topics chain wish] })
  let (final, events) := Watch.follow s.topics chain wish x.deliveries x.ending
  report events
  (trackerLines final).forM print

end PoolFeed.Command
