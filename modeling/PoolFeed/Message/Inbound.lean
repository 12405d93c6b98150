import PoolFeed.Json.Skip
import PoolFeed.Message.Topics
import PoolFeed.Time.Reader
import PoolFeed.Whitelist.Basic

/-!
# Received messages

A payload of either channel, read back. The fields may come in any order and among others, or as a
sequence of exactly their values; pools are bare keys or whole objects.

A message is read in document order: the first value that is not of the wanted kind is reported,
whatever follows it. Only a complete message is asked for its pools.
-/

namespace PoolFeed

open Text (Bytes byte)

/-- The pools of a received message. -/
inductive InboundPools where
  | keys (keys : List String)
  | records (records : List PoolRecord)

namespace InboundPools

def keyList : InboundPools → List String
  | .keys ks => ks
  | .records rs => rs.map (·.key)

def size : InboundPools → Nat
  | .keys ks => ks.length
  | .records rs => rs.length

def isEmpty (p : InboundPools) : Bool := p.size = 0

end InboundPools

/-- A message as a subscriber sees it. -/
structure InboundMessage where
  kind : Kind
  chain : String
  snapshotId : Int
  timestamp : Timestamp
  pools : InboundPools

namespace InboundMessage

/-- Why a payload is no message. -/
inductive Error where
  | json (error : Json.Error)
  /-- There is no list of pools. -/
  | noPools
  /-- A pool of the list is refused. -/
  | pool (index : Nat) (error : PoolRecord.Error)
  deriving Repr

/-- The wording of an error. -/
def Error.message : Error → String
  | .json e => e.message
  | .noPools => "message has neither 'pools' nor 'pool_addresses'"
  | .pool index e => s!"pool {index}: {e.message}"

/-! ## Fields -/

/-- The fields of a message as far as they have been read. -/
structure Fields where
  kind : Option Kind
  /-- The list may be present and null. -/
  pools : Option (Option (List Json))
  poolAddresses : Option (Option (List Json))
  chain : Option String
  timestamp : Option Timestamp
  snapshotId : Option Int

/-- No field has been read yet. -/
def Fields.none : Fields := ⟨.none, .none, .none, .none, .none, .none⟩

/-- A message whose fields have all been read. -/
structure Wire where
  kind : Kind
  pools : Option (List Json)
  poolAddresses : Option (List Json)
  chain : String
  timestamp : Timestamp
  snapshotId : Int

/-- The message of fields that are all there; lists of pools may be missing. -/
def Fields.complete (f : Fields) : Except Json.Error Wire :=
  match f.kind with
  | .none => .error (.missingField "type")
  | .some kind =>
    match f.chain with
    | .none => .error (.missingField "chain")
    | .some chain =>
      match f.timestamp with
      | .none => .error (.missingField "timestamp")
      | .some timestamp =>
        match f.snapshotId with
        | .none => .error (.missingField "snapshot_id")
        | .some snapshotId =>
          .ok { kind, chain, timestamp, snapshotId
                pools := f.pools.getD .none
                poolAddresses := f.poolAddresses.getD .none }

/-! ## Values of fields -/

def kindOfName (name : String) : Except Json.Error Kind :=
  match Kind.ofName? name with
  | some kind => .ok kind
  | none => .error (.unknownName name (Kind.all.map Kind.name))

/-- The null behind the kind in an object that stands for it, and the end of the object. -/
def kindObjectEnd (s : Bytes) : Except Json.Error Bytes :=
  match Json.skipBlanks s with
  | [] => .error .cutValue
  | b :: rest =>
    if b = byte 'n' then
      match Json.expectWord ['u', 'l', 'l'] rest with
      | .error e => .error e
      | .ok s' =>
        match Json.skipBlanks s' with
        | [] => .error .cutObject
        | c :: rest' => if c = byte '\x7d' then .ok rest' else .error .noValue
    else .error (Json.notWanted "unit" s)

theorem kindObjectEnd_length {s rest : Bytes} (h : kindObjectEnd s = .ok rest) :
    rest.length < s.length := by
  unfold kindObjectEnd at h
  have hs := Json.skipBlanks_length s
  split at h
  · simp at h
  · next hb =>
    rw [hb] at hs
    simp only [List.length_cons] at hs
    split at h
    · split at h
      · simp at h
      · next s' hw =>
        have l₁ := Json.expectWord_length hw
        have l₂ := Json.skipBlanks_length s'
        split at h
        · simp at h
        · next hc =>
          rw [hc] at l₂
          simp only [List.length_cons] at l₂
          split at h
          · simp only [Except.ok.injEq] at h
            rw [← h]
            omega
          · simp at h
    · simp at h

/-- The field of an object that stands for a kind, and the end of the object. -/
def kindMember : Json.Reader Kind where
  run s :=
    match Json.quotedString.run s with
    | .error e => .error e
    | .ok (name, s₁) =>
      match kindOfName name with
      | .error e => .error e
      | .ok kind =>
        match Json.colon s₁ with
        | .error e => .error e
        | .ok s₂ => (kindObjectEnd s₂).map (kind, ·)
  shorter {s a rest} h := by
    split at h
    · simp at h
    · next hk =>
      split at h
      · simp at h
      · split at h
        · simp at h
        · next hc =>
          obtain ⟨_, hr, he⟩ := Json.Except.map_eq_ok h
          have l₁ := Json.Reader.shorter _ hk
          have l₂ := Json.colon_length hc
          have l₃ := kindObjectEnd_length hr
          simp only [Prod.mk.injEq] at he
          rw [← he.2]
          omega

/-- A kind: its name, or an object whose one field has the name and is null. -/
def kindReader : Json.Reader Kind where
  run s :=
    match Json.skipBlanks s with
    | [] => .error .cutValue
    | b :: rest =>
      if b = byte '"' then
        match Json.stringRest [] rest with
        | .error e => .error e
        | .ok (name, s') => (kindOfName name).map (·, s')
      else if b = byte '\x7b' then
        match Json.Bracket.object.next true rest with
        | .error e => .error e
        | .ok (.closed _) => .error .noValue
        | .ok (.member t) => kindMember.run t
      else .error .noValue
  shorter {s a rest} h := by
    have hs := Json.skipBlanks_length s
    split at h
    · simp at h
    · next hb =>
      rw [hb] at hs
      simp only [List.length_cons] at hs
      split at h
      · split at h
        · simp at h
        · next hr =>
          obtain ⟨_, _, he⟩ := Json.Except.map_eq_ok h
          have := Json.stringRest_length hr
          simp only [Prod.mk.injEq] at he
          rw [← he.2]
          omega
      · split at h
        · split at h
          · simp at h
          · simp at h
          · next hm =>
            have l₁ := Json.Bracket.next_member_length hm
            have l₂ := Json.Reader.shorter _ h
            omega
        · simp at h

/-- A list of pools or null. The message and the list are two of the brackets around a pool. -/
def poolsReader : Json.Reader (Option (List Json)) :=
  Json.orNull (Json.arrayOf (Json.valueWithin (Json.nestingLimit - 2)))

def chainReader : Json.Reader String := Json.stringFor "a string"

/-- A point in time. -/
def timestampReader : Json.Reader Timestamp :=
  Json.stringAs "an RFC 3339 formatted date and time string" (fun text =>
    match Timestamp.read text.toList with
    | .ok t => .ok t
    | .error e => .error (.unreadable e.message))

/-! ## Messages -/

/-- The value of a field that was not read yet. -/
def once (name : String) (old : Option α) (reader : Json.Reader β) :
    Except Json.Error (Json.Reader β) :=
  if old.isSome then .error (.duplicateField name) else .ok reader

/-- The value of a field by its name. Fields of other names are passed over. -/
def fieldValue (f : Fields) (name : String) : Except Json.Error (Json.Reader Fields) :=
  if name = "type" then once name f.kind (kindReader.map ({ f with kind := some · }))
  else if name = "pools" then once name f.pools (poolsReader.map ({ f with pools := some · }))
  else if name = "pool_addresses" then
    once name f.poolAddresses (poolsReader.map ({ f with poolAddresses := some · }))
  else if name = "chain" then once name f.chain (chainReader.map ({ f with chain := some · }))
  else if name = "timestamp" then
    once name f.timestamp (timestampReader.map ({ f with timestamp := some · }))
  else if name = "snapshot_id" then
    once name f.snapshotId (Json.int64.map ({ f with snapshotId := some · }))
  else .ok (Json.skipFor f)

/-- A message as an object, from behind its brace on. -/
def readObject (s : Bytes) : Except Json.Error (Wire × Bytes) :=
  match Json.Bracket.object.fold (fun f => Json.field (fieldValue f)) true Fields.none s with
  | .error e => .error e
  | .ok (f, rest) => f.complete.map (·, rest)

/-- What a message is called in errors. -/
def wanted : String := "struct WireMessage"

/-- The next value of a sequence, if there is one. -/
def element (first : Bool) (reader : Json.Reader α) (s : Bytes) :
    Except Json.Error (Option α × Bytes) :=
  match Json.Bracket.array.next first s with
  | .error e => .error e
  | .ok (.closed _) => .ok (none, s)
  | .ok (.member t) => (reader.run t).map (fun p => (some p.1, p.2))

/-- A value of a sequence that has to be there, `index` being its place. -/
def requiredElement (index : Nat) (reader : Json.Reader α) (s : Bytes) :
    Except Json.Error (α × Bytes) :=
  match element (index = 0) reader s with
  | .error e => .error e
  | .ok (none, _) => .error (.wrongLength index (wanted ++ " with 6 elements"))
  | .ok (some a, rest) => .ok (a, rest)

/-- The end of a sequence of which all wanted values have been read. -/
def sequenceEnd (s : Bytes) : Except Json.Error Bytes :=
  match Json.skipBlanks s with
  | [] => .error .cutArray
  | b :: rest =>
    if b = byte ']' then .ok rest
    else if b = byte ',' && (Json.skipBlanks rest).head? = some (byte ']') then
      .error .trailingComma
    else .error .trailingText

/-- A message as a sequence of its values, from behind its bracket on. -/
def readSequence (s : Bytes) : Except Json.Error (Wire × Bytes) := do
  -- A sequence that ends behind the kind lacks its chain; the lists of pools are not missed.
  let (kind, s) ← requiredElement 0 kindReader s
  let (pools, s) ← element false poolsReader s
  let (poolAddresses, s) ← element false poolsReader s
  let (chain, s) ← requiredElement 3 chainReader s
  let (timestamp, s) ← requiredElement 4 timestampReader s
  let (snapshotId, s) ← requiredElement 5 Json.int64 s
  let rest ← sequenceEnd s
  .ok ({ kind, chain, timestamp, snapshotId
         pools := pools.getD none
         poolAddresses := poolAddresses.getD none }, rest)

/-- A message that is the whole text. -/
def readWire (s : Bytes) : Except Json.Error Wire :=
  match Json.skipBlanks s with
  | [] => .error .cutValue
  | b :: rest =>
    let message : Except Json.Error (Wire × Bytes) :=
      if b = byte '\x7b' then readObject rest
      else if b = byte '[' then readSequence rest
      else .error (Json.notWanted wanted s)
    match message with
    | .error e => .error e
    | .ok (wire, rest) =>
      if (Json.skipBlanks rest).isEmpty then .ok wire else .error .trailingText

/-- The records of some pool objects, the first of them having the given place. -/
def recordsFrom (index : Nat) : List Json → Except Error (List PoolRecord)
  | [] => .ok []
  | v :: rest =>
    match PoolRecord.ofJson v with
    | .error e => .error (.pool index e)
    | .ok r =>
      match recordsFrom (index + 1) rest with
      | .error e => .error e
      | .ok rs => .ok (r :: rs)

/-- The pools of a list: keys if all entries are strings, else records. -/
def poolsOf (entries : List Json) : Except Error InboundPools :=
  if entries.all Json.isString then
    .ok (.keys ((entries.filterMap Json.string?).map normalizeKey))
  else (recordsFrom 0 entries).map .records

def decode (payload : Bytes) : Except Error InboundMessage :=
  match readWire payload with
  | .error e => .error (.json e)
  | .ok wire =>
    match wire.pools.or wire.poolAddresses with
    | none => .error .noPools
    | some entries =>
      (poolsOf entries).map (fun pools =>
        { kind := wire.kind, chain := wire.chain, snapshotId := wire.snapshotId
          timestamp := wire.timestamp, pools })

end InboundMessage

end PoolFeed
