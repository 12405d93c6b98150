import PoolFeed.Text.Bytes
import PoolFeed.Time.Duration

/-!
# Transports

A transport takes payloads under subjects. It may refuse one, and it may take its time.
-/

namespace PoolFeed

/-- What a transport makes of a payload, how it is left behind, and how long that takes. -/
structure Emission (τ : Type) where
  /-- Nothing, or why the payload was refused. -/
  result : Except String Unit
  transport : τ
  delay : Duration

/-- What is asked of a transport. -/
class Transport (τ : Type) where
  /-- Sends a payload under a subject. -/
  publish : String → Text.Bytes → τ → Emission τ

end PoolFeed
