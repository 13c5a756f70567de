import ScatterGather.Text.Case
import ScatterGather.Text.Character
import ScatterGather.Text.Utf8
import ScatterGather.Number.Binary64
import ScatterGather.Sql.Token.Scan
import ScatterGather.Sql.Parser.Expr
import ScatterGather.Sql.Parser.Query
import ScatterGather.Sql.Parse
import ScatterGather.Ascending
import ScatterGather.Sharding.KeyValue
import ScatterGather.Sharding.Placement
import ScatterGather.Sql.Kind
import ScatterGather.Json
import ScatterGather.Json.Compact
import ScatterGather.Layout
import ScatterGather.Layout.Json
import ScatterGather.Layout.Schema
import ScatterGather.Wire.Reply
import ScatterGather.Routing.Bound
import ScatterGather.Routing.Plan
import ScatterGather.Routing.Facts
import ScatterGather.Routing.Route
import ScatterGather.Wire.Front
import ScatterGather.Reply.Coordinator
import ScatterGather.Reply.Dispatch
import ScatterGather.Statistics
import ScatterGather.Console.Arguments
import ScatterGather.Console.Shell
import ScatterGather.Main
import ScatterGather.Proofs.Wire.Numbered
import ScatterGather.Proofs.Reply.Run
import ScatterGather.Proofs.Reply.Step
import ScatterGather.Proofs.Reply.Barrier
import ScatterGather.Proofs.Gather.Columns
import ScatterGather.Proofs.Reply.FirstFailure
import ScatterGather.Proofs.Gather.StableSort
import ScatterGather.Proofs.Reply.Arrivals
import ScatterGather.Proofs.Reply.ResultSet
import ScatterGather.Proofs.Sequence
import ScatterGather.Proofs.Sharding.Placed
import ScatterGather.Proofs.Routing.Truth
import ScatterGather.Proofs.Routing.Coverage
import ScatterGather.Proofs.Text.Encoded
import ScatterGather.Proofs.Wire.Written
import ScatterGather.Proofs.Reply.Totals
import ScatterGather.Proofs.Reply.LastReply
import ScatterGather.Proofs.Reply.OneShard
import ScatterGather.Proofs.Gather.FirstRows
import ScatterGather.Proofs.Routing.Widened
import ScatterGather.Proofs.Reply.Page
import ScatterGather.Proofs.Routing.Split
import ScatterGather.Proofs.Sql.Listed
import ScatterGather.Proofs.Reply.Relayed
import ScatterGather.Proofs.Routing.Shape
import ScatterGather.Proofs.Reply.Answered
import ScatterGather.Proofs.Routing.Scope
import ScatterGather.Proofs.Sharding.Spelled
import ScatterGather.Proofs.Text.Signs
import ScatterGather.Proofs.Sql.Same
import ScatterGather.Proofs.Routing.Spelling
import ScatterGather.Proofs.Routing.Copies
import ScatterGather.Proofs.Routing.Naming
import ScatterGather.Proofs.Routing.Resolved
import ScatterGather.Proofs.Routing.Aliased
import ScatterGather.Proofs.Routing.Parentheses
import ScatterGather.Proofs.Routing.Definitions
import ScatterGather.Proofs.Number.Ranked
import ScatterGather.Proofs.Gather.Comparison
import ScatterGather.Proofs.Gather.Calls
import ScatterGather.Proofs.Sharding.Ranges
import ScatterGather.Proofs.Number.Digits
import ScatterGather.Proofs.Sharding.Plain
import ScatterGather.Proofs.Number.Nearest
import ScatterGather.Proofs.Number.Numeral
import ScatterGather.Proofs.Sql.Numbers
import ScatterGather.Proofs.Routing.Numbers
import ScatterGather.Proofs.Gather.WholeNumbers
import ScatterGather.Proofs.Layout.Declared
import ScatterGather.Proofs.Layout.Accepted
import ScatterGather.Proofs.Routing.Found
import ScatterGather.Proofs.Sharding.Union
import ScatterGather.Proofs.Routing.Refusals
import ScatterGather.Proofs.Wire.Drained
import ScatterGather.Proofs.Reply.Returned
import ScatterGather.Proofs.Reply.Passed
import ScatterGather.Proofs.Routing.KeyColumn
import ScatterGather.Wire.Packet
import ScatterGather.Proofs.Wire.Framed
import ScatterGather.Proofs.Wire.Truncated
import ScatterGather.Proofs.Sql.Noise
import ScatterGather.Proofs.Statistics.Recorded
import ScatterGather.Proofs.Statistics.Average
import ScatterGather.Proofs.Statistics.Reordered
import ScatterGather.Proofs.Wire.Shortest
import ScatterGather.Proofs.Routing.Negated
import ScatterGather.Proofs.Layout.Demo
import ScatterGather.Proofs.Layout.Kept
