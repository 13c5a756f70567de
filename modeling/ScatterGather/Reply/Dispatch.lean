/-
**From statement to response.**

* `Handler`: the relay of one shard, or the coordinator of several;
* `Handler.ofPlan`: the handler for a plan;
* `dispatch`: a statement is routed, and either sent to its shards with a handler for their replies, or
  refused with an error that the client gets at once.
-/
import ScatterGather.Reply.Coordinator
import ScatterGather.Reply.Relay
import ScatterGather.Routing.Route

namespace ScatterGather

open Wire

/-- What takes the replies of a statement. -/
inductive Handler where
  | relay (state : Relay)
  | coordinator (state : Coordinator)
  deriving DecidableEq, Repr, Inhabited

namespace Handler

/-- The handler for a plan. -/
def ofPlan (plan : Plan) : Handler :=
  if plan.outlets.length = 1 then .relay {}
  else
    .coordinator
      { remaining := plan.outlets.length
        gathering := { window := plan.window, orderBy := plan.orderBy } }

/-- Tells whether the handler waits for several replies. -/
def isCoordinator : Handler → Bool
  | relay _ => false
  | coordinator _ => true

/-- What the handler does at an event. -/
def step (session : Session) : Handler → Event → Handler × List Effect
  | relay state, event =>
    let (next, effects) := state.step session event
    (relay next, effects)
  | coordinator state, event =>
    let (next, effects) := state.step session event
    (coordinator next, effects)

end Handler

/-- A statement that has been sent to its shards. -/
structure Dispatched where
  handler : Handler
  /-- What every shard was sent, in order. -/
  sent : List Outlet
  deriving DecidableEq, Repr, Inhabited

/-- What the client gets for a statement that cannot be routed. -/
def refusal (session : Session) (error : RouteError) : List Effect :=
  Effect.writes (session.front.write error.toClient.toReply.packet)

/-- A statement sent to the shards of its route. -/
def Dispatched.ofPlan (session : Session) (plan : Plan) (sql : String) : Dispatched :=
  let (handler, _) := (Handler.ofPlan plan).step session (.setSql sql)
  { handler, sent := plan.outlets }

/-- Routes a statement and sends it to its shards, one of them picked by `choose` where several would
do; or refuses it, and tells what the client gets. -/
def dispatch (schema : Schema) (session : Session) (sql charset : String)
    (choose : List ShardId → ShardId) : Except (RouteError × List Effect) Dispatched :=
  match route schema sql charset (Sql.Kind.classify sql) with
  | .error error => .error (error, refusal session error)
  | .ok route => .ok (Dispatched.ofPlan session (route.pick choose) sql)

end ScatterGather
