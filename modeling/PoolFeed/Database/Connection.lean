import PoolFeed.Database.Server

/-!
# Connections to a database

Operations on a connection have so much time for all of their statements together. Once a server
has fallen silent or hung up, statements do not reach it any more. The report that a connection
makes on its own account when it breaks, "PostgreSQL connection error", is left out: it belongs to
no operation.
-/

namespace PoolFeed.Database

/-- The state of a connection. -/
inductive Link where
  | up
  /-- The server answers no more. -/
  | silent
  /-- The connection is closed. -/
  | down
  deriving DecidableEq, Repr

/-- Why an operation failed. -/
inductive Fault where
  /-- The server refused a statement. -/
  | refused
  /-- The connection is closed. -/
  | closed
  /-- The time of the operation is over. -/
  | overdue
  /-- A result has more or fewer rows than were asked for. -/
  | rowCount
  /-- A column cannot be read as what it stands for. -/
  | unreadable (column : Nat)
  deriving DecidableEq, Repr

/-- The wording of a fault, given the time that the operation had. -/
def Fault.message (limit : Duration) : Fault → String
  | .refused => "db error"
  | .closed => "connection closed"
  | .overdue => s!"timed out after {limit.text}"
  | .rowCount => "query returned an unexpected number of rows"
  | .unreadable column => s!"error deserializing column {column}"

/-- A connection to a server. -/
structure Connection (α : Type) where
  server : α
  link : Link
  /-- What reached the server, oldest first. -/
  sent : List Statement

/-- What statements came to, the time an operation has used by then, and the connection. -/
structure Execution (α β : Type) where
  result : Except Fault β
  used : Duration
  connection : Connection α

namespace Connection

variable {α : Type} [Server α]

/-- A connection over which nothing was said. -/
def new (server : α) : Connection α := ⟨server, .up, []⟩

/-- How a reply leaves the connection. -/
def linkAfter : Reply → Link
  | .silence => .silent
  | .hangUp => .down
  | _ => .up

/-- What a reply says that comes in time. -/
def resultOf : Reply → Except Fault (List Row)
  | .rows rows => .ok rows
  | .refusal => .error .refused
  | .hangUp => .error .closed
  | .silence => .error .overdue

/--
Whether the server hears of a statement that is said after an operation has used some of its time.
One that has to be prepared is not executed any more when there is no time left.
-/
def reaches (limit used : Duration) (s : Statement) (c : Connection α) : Bool :=
  c.link = .up && !(s.isPrepared && limit.nanoseconds ≤ used.nanoseconds)

/-- Says a statement. An operation whose time is over does not hear of the answer. -/
def execute (limit used : Duration) (s : Statement) (c : Connection α) :
    Execution α (List Row) :=
  if c.link = .down then ⟨.error .closed, used, c⟩
  else if c.reaches limit used s then
    -- The server is reached even where its answer comes too late.
    let r := Server.answer s c.server
    let used' := used.plus r.delay
    ⟨if used'.nanoseconds < limit.nanoseconds then resultOf r.reply else .error .overdue, used',
      ⟨r.server, linkAfter r.reply, c.sent ++ [s]⟩⟩
  else ⟨.error .overdue, limit, c⟩

/-- Says statements until one fails. -/
def executeAll (limit used : Duration) : List Statement → Connection α → Execution α Unit
  | [], c => ⟨.ok (), used, c⟩
  | s :: rest, c =>
    let e := c.execute limit used s
    match e.result with
    | .error f => ⟨.error f, e.used, e.connection⟩
    | .ok _ => executeAll limit e.used rest e.connection

/-- Takes back what a transaction did. Whether the server hears of it does not matter any more. -/
def rollBack (limit : Duration) (c : Connection α) : Connection α :=
  (c.execute limit .zero .rollback).connection

/--
Says statements as one transaction. It is committed once all of them succeeded, and rolled back
when one fails.
-/
def transact (limit : Duration) (writes : List Statement) (c : Connection α) : Execution α Unit :=
  let e := c.executeAll limit .zero (.startTransaction :: writes)
  match e.result with
  | .error f => ⟨.error f, e.used, e.connection.rollBack limit⟩
  | .ok () =>
    let e' := e.connection.execute limit e.used .commit
    ⟨e'.result.map (fun _ => ()), e'.used, e'.connection⟩

/-- A statement whose result may have one row. -/
def queryOptional (limit : Duration) (s : Statement) (c : Connection α) :
    Execution α (Option Row) :=
  let e := c.execute limit .zero s
  let result := match e.result with
    | .error f => .error f
    | .ok [] => .ok none
    | .ok [row] => .ok (some row)
    | .ok _ => .error .rowCount
  ⟨result, e.used, e.connection⟩

/-- A statement whose result has one row. -/
def queryOne (limit : Duration) (s : Statement) (c : Connection α) : Execution α Row :=
  let e := c.queryOptional limit s
  let result := match e.result with
    | .error f => .error f
    | .ok none => .error .rowCount
    | .ok (some row) => .ok row
  ⟨result, e.used, e.connection⟩

end Connection

end PoolFeed.Database
