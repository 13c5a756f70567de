/-
**What the handlers of replies see and do.**

* `Session`: what a handler knows of the client;
* `Event`: what a shard sends, or what happens to its connection;
* `Effect`: what a handler does: it writes to the client, gives a connection back, defers a success
  or records a statement;
* `written`, `savepoints`, …: the effects of one kind, in order;
* `ClientError.toReply`: the reply that a client gets for an error.
-/
import ScatterGather.Sharding.Placement
import ScatterGather.Wire.Front
import ScatterGather.Wire.Reply

namespace ScatterGather

open Wire

/-! ### Connections and sessions -/

/-- Where a shard is. -/
structure Datasource where
  host : String
  port : UInt16
  database : String
  shard : ShardId
  deriving DecidableEq, Repr, Inhabited

/-- A connection to a shard. -/
structure Connection where
  id : UInt64
  source : Datasource
  deriving DecidableEq, Repr, Inhabited

/-- What a handler knows of the client: the way to it, and whether it has opened a transaction. -/
structure Session where
  front : Front
  inTransaction : Bool := false
  deriving DecidableEq, Repr, Inhabited

/-! ### Events and effects -/

/-- What happens on the way from a shard. -/
inductive Event where
  | ok (packet : Packet) (connection : Connection)
  | error (packet : Packet) (connection : Connection)
  /-- The number of columns, the columns and their end. -/
  | field (header : Packet) (fields : List Packet) (eof : Packet) (connection : Connection)
  | row (packet : Packet) (connection : Connection)
  | eof (packet : Packet) (connection : Connection)
  /-- A connection went away before its reply was complete. -/
  | close (reason : String)
  /-- The text of the statement becomes known. -/
  | setSql (sql : String)
  deriving DecidableEq, Repr, Inhabited

/-- What a handler does. -/
inductive Effect where
  | write (chunk : Chunk)
  | release (connection : Connection)
  /-- A success that the client learns of when its transaction ends. -/
  | savepoint (reply : OkReply) (sequence : UInt8)
  | record (source : Datasource) (sql : String)
  deriving DecidableEq, Repr, Inhabited

/-- Tells whether an event ends the reply of a shard. -/
def Event.isFinal : Event → Bool
  | .ok .. | .error .. | .eof .. | .close _ => true
  | _ => false

/-- The chunks as they are written. -/
def Effect.writes (chunks : List Chunk) : List Effect :=
  chunks.map .write

/-- The chunks that are written. -/
def written (effects : List Effect) : List Chunk :=
  effects.filterMap fun
    | .write chunk => some chunk
    | _ => none

/-- The connections that are given back. -/
def released (effects : List Effect) : List Connection :=
  effects.filterMap fun
    | .release connection => some connection
    | _ => none

/-- The successes that are deferred, with their ids. -/
def savepoints (effects : List Effect) : List (OkReply × UInt8) :=
  effects.filterMap fun
    | .savepoint reply sequence => some (reply, sequence)
    | _ => none

/-- The statements that are recorded. -/
def recorded (effects : List Effect) : List (Datasource × String) :=
  effects.filterMap fun
    | .record source sql => some (source, sql)
    | _ => none

/-! ### Errors as replies -/

/-- The state that a malformed statement is reported with. -/
def malformedState : String := "42000"

/-- The reply that a client gets for an error. That of a shard keeps its own state and text, a
malformed statement its own text. -/
def ClientError.toReply (error : ClientError) : ErrReply :=
  match error with
  | .parse text => ⟨error.code, malformedState, text⟩
  | .backend _ state text => ⟨error.code, state, text⟩
  | _ => ⟨error.code, ErrReply.generalState, error.message⟩

end ScatterGather
