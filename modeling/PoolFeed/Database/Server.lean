import PoolFeed.Database.Statement
import PoolFeed.Time.Duration

/-!
# Database servers

A server answers statements one after the other. It may also fall silent or hang up.
-/

namespace PoolFeed.Database

/-- What a server makes of a statement. -/
inductive Reply where
  /-- The statement succeeded and has some rows. -/
  | rows (rows : List Row)
  /-- The statement failed. -/
  | refusal
  /-- There will be no answer any more. -/
  | silence
  /-- The connection is closed. -/
  | hangUp

/-- A reply, when it comes, and how the server is left behind. -/
structure Response (α : Type) where
  reply : Reply
  delay : Duration
  server : α

/-- What answers statements. -/
class Server (α : Type) where
  answer : Statement → α → Response α

/-- A server that has its replies ready. When there are none left, everything succeeds. -/
structure Script where
  replies : List Reply

/-- Whether a statement succeeds without taking one of the replies. -/
def Script.passes : Statement → Bool
  | .limitTime _ => true
  | .startTransaction => true
  | .rollback => true
  | _ => false

instance : Server Script where
  answer statement script :=
    if Script.passes statement then ⟨.rows [], .zero, script⟩
    else
      match script.replies with
      | [] => ⟨.rows [], .zero, script⟩
      | reply :: rest => ⟨reply, .zero, ⟨rest⟩⟩

end PoolFeed.Database
