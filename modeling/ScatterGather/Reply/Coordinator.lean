/-
**The coordinator of several shards.**

* `Coordinator`: what is known of the replies of all shards that run a statement;
* `Coordinator.step`: replies are gathered as they come, and the last of them is answered with one
  response: the first failure if there is one, or else the totals of all successes, or the merged
  rows.
-/
import ScatterGather.Gather.Gathering
import ScatterGather.Reply.Event
import ScatterGather.Text.Case

namespace ScatterGather

open Wire

/-- The columns of a result as a shard sent them. -/
structure FieldSet where
  header : Packet
  fields : List Packet
  eof : Packet
  deriving DecidableEq, Repr, Inhabited

/-- What is known of the replies of several shards. -/
structure Coordinator where
  sql : String := ""
  /-- The number of replies still to come. -/
  remaining : Nat
  /-- The first failure. -/
  failure : Option ErrReply := none
  affectedRows : UInt64 := 0
  /-- The smallest insert id other than zero, or zero if there is none. -/
  insertId : UInt64 := 0
  /-- Whether columns have come in, fit or not. -/
  fieldsSeen : Bool := false
  fields : Option FieldSet := none
  gathering : Gathering
  deriving DecidableEq, Repr, Inhabited

namespace Coordinator

/-- Tells whether a shard has failed. -/
def failed (state : Coordinator) : Bool :=
  state.failure.isSome

/-- Keeps a failure unless there is an earlier one. -/
def fail (state : Coordinator) (reply : ErrReply) : Coordinator :=
  { state with failure := some (state.failure.getD reply) }

/-- Keeps an error of the coordinator's own unless there is an earlier failure. -/
def failWith (state : Coordinator) (text : String) : Coordinator :=
  state.fail (ClientError.internal text).toReply

/-! ### Responses -/

/-- The response that tells of the failure. -/
def failureResponse (session : Session) (state : Coordinator) : List Effect :=
  let unexplained := (ClientError.internal "statement failed without an error").toReply
  Effect.writes (session.front.write (state.failure.getD unexplained).packet)

/-- The response that tells of the totals. The rest of it is that of the last reply. -/
def okResponse (session : Session) (state : Coordinator) (last : OkReply) : List Effect :=
  let reply := { last with affectedRows := state.affectedRows, insertId := state.insertId }
  let sequence := (Sequence.next {}).last
  if session.inTransaction then [.savepoint reply sequence]
  else Effect.writes (session.front.write ⟨sequence, reply.payload⟩)

/-- The packets of the columns. -/
def fieldPackets (state : Coordinator) : List Packet :=
  match state.fields with
  | some set => [set.header] ++ set.fields ++ [set.eof]
  | none => []

/-- A row as a packet, whose id is yet to come. -/
def rowPacket (row : Row) : Packet :=
  ⟨0, row.payload⟩

/-- The response that tells of the merged rows, and the state without them. -/
def rowsResponse (session : Session) (state : Coordinator) (eof : Packet) :
    Coordinator × List Effect :=
  let (rows, gathering) := state.gathering.take
  let packets := state.fieldPackets ++ (gathering.window.cut rows).map rowPacket ++ [eof]
  let (_, chunks) := session.front.finish {} packets
  ({ state with fields := none, gathering }, Effect.writes chunks)

/-! ### Replies -/

/-- Counts a reply; `respond` answers if it is the last one. -/
def countDown (state : Coordinator) (respond : Coordinator → Coordinator × List Effect) :
    Coordinator × List Effect :=
  match state.remaining with
  | 0 => (state, [])
  | 1 => respond { state with remaining := 0 }
  | remaining + 1 => ({ state with remaining }, [])

/-- Answers with the failure. -/
def respondFailure (session : Session) (state : Coordinator) : Coordinator × List Effect :=
  (state, failureResponse session state)

/-- Adds the numbers of a success to the totals. The sum of the rows wraps at 2 ^ 64; of the insert ids
other than zero the smallest is kept. -/
def addOk (state : Coordinator) (reply : OkReply) : Coordinator :=
  let insertId :=
    if reply.insertId = 0 then state.insertId
    else if state.insertId = 0 then reply.insertId
    else min state.insertId reply.insertId
  { state with affectedRows := state.affectedRows + reply.affectedRows, insertId }

/-- Takes in a success. -/
def onOk (session : Session) (state : Coordinator) (packet : Packet) :
    Coordinator × List Effect :=
  if state.failed then state.countDown (respondFailure session)
  else
    match OkReply.read packet.payload with
    | .ok reply =>
      (state.addOk reply).countDown fun state => (state, okResponse session state reply)
    | .error cause =>
      (state.failWith ("malformed OK packet: " ++ cause.message)).countDown
        (respondFailure session)

/-- The error that a failure of a shard comes to. -/
def shardError (packet : Packet) : ClientError :=
  match ErrReply.read packet.payload with
  | .ok reply => .backend reply.code reply.state reply.message
  | .error cause => .internal ("malformed error packet: " ++ cause.message)

/-- The columns that packets describe, by their uppercase names. -/
def columnsOf (fields : List Packet) : Except PacketError (List (String × Column)) :=
  ((List.range fields.length).zip fields).mapM fun (index, packet) => do
    let field ← FieldReply.read packet.payload
    return (Text.upper field.name, ⟨index, field.columnType⟩)

/-- Takes in the columns, or tells why they do not fit. -/
def setFields (state : Coordinator) (set : FieldSet) : Except String Coordinator :=
  match columnsOf set.fields with
  | .error cause => .error ("malformed field packet: " ++ cause.message)
  | .ok columns =>
    match state.gathering.learn columns set.fields.length with
    | .error cause => .error cause.message
    | .ok gathering => .ok { state with gathering, fields := some set }

/-- Takes in columns. The first ones count, and only as long as nothing has failed. -/
def onFields (state : Coordinator) (set : FieldSet) (connection : Connection) :
    Coordinator × List Effect :=
  if state.failed || state.fieldsSeen then (state, [])
  else
    let seen := { state with fieldsSeen := true }
    match seen.setFields set with
    | .ok state => (state, [])
    | .error text => (seen.failWith text, [.release connection])

/-- Takes in a row. -/
def onRow (state : Coordinator) (packet : Packet) : Coordinator :=
  if state.failed then state
  else
    match state.gathering.add packet.payload with
    | .ok gathering => { state with gathering }
    | .error cause => state.failWith cause.message

/-- Takes in the end of rows. -/
def onEof (session : Session) (state : Coordinator) (packet : Packet) :
    Coordinator × List Effect :=
  state.countDown fun state =>
    if state.failed then respondFailure session state else rowsResponse session state packet

/-- What is known of a statement when a shard has done with it. -/
def completed (state : Coordinator) (connection : Connection) : List Effect :=
  [.record connection.source state.sql, .release connection]

/-- What the coordinator does at an event. -/
def step (session : Session) (state : Coordinator) : Event → Coordinator × List Effect
  | .ok packet connection =>
    let (next, effects) := state.onOk session packet
    (next, state.completed connection ++ effects)
  | .error packet connection =>
    let (next, effects) :=
      (state.fail (shardError packet).toReply).countDown (respondFailure session)
    (next, .release connection :: effects)
  | .field header fields eof connection => state.onFields ⟨header, fields, eof⟩ connection
  | .row packet _ => (state.onRow packet, [])
  | .eof packet connection =>
    let (next, effects) := state.onEof session packet
    (next, state.completed connection ++ effects)
  | .close reason =>
    (state.fail (ClientError.connection reason).toReply).countDown (respondFailure session)
  | .setSql sql => ({ state with sql }, [])

end Coordinator

end ScatterGather
