import PoolFeed.Transport.Basic

/-!
# A transport that records

Keeps every payload it takes. It can be told to refuse or to stall some subjects, and to refuse
everything once it holds so many payloads.
-/

namespace PoolFeed

/-- A transport that records. -/
structure RecordingTransport where
  /-- The subjects and payloads that were taken, oldest first. -/
  published : List (String × Text.Bytes)
  /-- The subjects that are refused. -/
  failing : List String
  /-- The subjects on which nothing ever completes. -/
  stalled : List String
  /-- The number of payloads from which on everything is refused. -/
  failAfter : Option Nat

namespace RecordingTransport

/-- A transport that has taken nothing and takes everything. -/
def new : RecordingTransport := ⟨[], [], [], none⟩

/-- A transport told to take everything again. -/
def cleared (t : RecordingTransport) : RecordingTransport :=
  { t with failing := [], stalled := [], failAfter := none }

/-- Whether a payload under a subject is refused at once. -/
def refuses (t : RecordingTransport) (subject : String) : Bool :=
  t.failAfter.any (· ≤ t.published.length) || t.failing.contains subject

/-- How long a stalled payload takes to fail. -/
def stallTime : Duration := .ofSeconds 3600

/-- Takes a payload, refuses it, or lets it stall. -/
def publish (subject : String) (payload : Text.Bytes) (t : RecordingTransport) :
    Emission RecordingTransport :=
  if t.refuses subject then ⟨.error s!"broker rejected publish to {subject}", t, .zero⟩
  else if t.stalled.contains subject then
    ⟨.error s!"publish to {subject} never completed", t, stallTime⟩
  else ⟨.ok (), { t with published := t.published ++ [(subject, payload)] }, .zero⟩

instance : Transport RecordingTransport := ⟨publish⟩

end RecordingTransport

end PoolFeed
