/-
**The relay of one shard.**

* `Relay`: what is on its way to the client of the reply of one shard;
* `Relay.step`: every packet is sent on as it comes, under the next sequence id. The ends of replies
  leave nothing in the buffer, and a success in a transaction is deferred.
-/
import ScatterGather.Reply.Event

namespace ScatterGather

open Wire

/-- The reply of one shard on its way to the client. -/
structure Relay where
  sql : String := ""
  stream : Stream := {}
  deriving DecidableEq, Repr, Inhabited

namespace Relay

/-- The relay with another stream, and the chunks on their way out. -/
def sent (relay : Relay) (result : Stream × List Chunk) : Relay × List Effect :=
  ({ relay with stream := result.1 }, Effect.writes result.2)

/-- What is known of a statement when a shard has done with it. -/
def completed (relay : Relay) (connection : Connection) : List Effect :=
  [.record connection.source relay.sql, .release connection]

/-- The answer to a success under an id. A deferred one has to be read first. -/
def acknowledge (session : Session) (packet : Packet) (sequence : UInt8) : List Effect :=
  if session.inTransaction then
    match OkReply.read packet.payload with
    | .ok reply => [.savepoint reply sequence]
    | .error cause =>
      let error := ClientError.internal ("malformed OK packet: " ++ cause.message)
      Effect.writes (session.front.write ⟨sequence, error.toReply.payload⟩)
  else Effect.writes (session.front.write (packet.withSequence sequence))

/-- What the relay does at an event. -/
def step (session : Session) (relay : Relay) : Event → Relay × List Effect
  | .ok packet connection =>
    let sequence := relay.stream.sequence.next
    ({ relay with stream := { relay.stream with sequence } },
      relay.completed connection ++ acknowledge session packet sequence.last)
  | .error packet connection =>
    let (relay, effects) := relay.sent (session.front.finish relay.stream [packet])
    (relay, .release connection :: effects)
  | .field header fields eof _ =>
    relay.sent (session.front.sendAll relay.stream ([header] ++ fields ++ [eof]))
  | .row packet _ => relay.sent (session.front.sendAll relay.stream [packet])
  | .eof packet connection =>
    let (next, effects) := relay.sent (session.front.finish relay.stream [packet])
    (next, relay.completed connection ++ effects)
  | .close reason =>
    let reply := (ClientError.connection reason).toReply
    relay.sent (session.front.finish relay.stream [reply.packet])
  | .setSql sql => ({ relay with sql }, [])

end Relay

end ScatterGather
