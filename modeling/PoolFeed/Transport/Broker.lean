import PoolFeed.Transport.Basic

/-!
# Brokers

A broker takes every payload that is not too long and passes it on.
-/

namespace PoolFeed

/-- A broker and what it took. -/
structure Broker where
  /-- The length of the longest payload that is taken, in bytes. -/
  maxPayload : Nat
  /-- The subjects and payloads that were taken, oldest first. -/
  published : List (String × Text.Bytes)

namespace Broker

/-- A broker that has taken nothing. -/
def new (maxPayload : Nat) : Broker := ⟨maxPayload, []⟩

/-- Takes a payload unless it is too long. -/
def publish (subject : String) (payload : Text.Bytes) (b : Broker) : Emission Broker :=
  if b.maxPayload < payload.length then
    ⟨.error s!"Failed to publish to {subject}: max payload size exceeded", b, .zero⟩
  else ⟨.ok (), { b with published := b.published ++ [(subject, payload)] }, .zero⟩

instance : Transport Broker := ⟨publish⟩

end Broker

end PoolFeed
