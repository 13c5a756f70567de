/-
**The result set of several shards.**

Where every shard replies with columns and rows, and nothing is wrong with them, the client gets one result
set, however the replies come in:

* `ShardReply`: a complete reply of columns, rows and their end;
* `Fits`: the columns that came first can be read and have all that the order names, and every row can
  be read by their number; then **nothing fails** (`firstFailure?_of_fits`);
* `Gathered`: **the invariant** — as long as replies are missing, what is gathered is what was offered;
* `merged_rows_are_response` — the response is the first columns, the window of the merged rows, and the
  last end of rows, numbered from one on.
-/
import ScatterGather.Proofs.Gather.StableSort
import ScatterGather.Proofs.Reply.Arrivals
import ScatterGather.Proofs.Reply.FirstFailure
import ScatterGather.Proofs.Sequence

namespace ScatterGather

open Wire

/-! ### Replies of rows -/

/-- A complete reply of columns, rows and their end. -/
structure ShardReply where
  connection : Connection
  columns : FieldSet
  rows : List Packet
  eof : Packet
  deriving DecidableEq, Repr

/-- A complete reply as it comes in. -/
def ShardReply.events (reply : ShardReply) : List Event :=
  .field reply.columns.header reply.columns.fields reply.columns.eof reply.connection ::
    (reply.rows.map fun packet => .row packet reply.connection) ++ [.eof reply.eof reply.connection]

/-- The row that an event offers. -/
def Event.row? : Event → Option Packet
  | .row packet _ => some packet
  | _ => none

/-- The end of rows that an event is. -/
def Event.eof? : Event → Option Packet
  | .eof packet _ => some packet
  | _ => none

/-- The rows that are offered. -/
def offered (events : List Event) : List Packet :=
  events.filterMap Event.row?

/-- The end of rows that came last. -/
def lastEof? (events : List Event) : Option Packet :=
  (events.filterMap Event.eof?).getLast?

/-- A row is what a packet holds, by the number of some columns. -/
def ReadBy (columns : Option FieldSet) (packet : Packet) (row : Row) : Prop :=
  ∃ set, columns = some set ∧ Row.read packet.payload set.fields.length = .ok row

/-- Events fit some columns: these can be read and have all that the order names, and all rows can be
read by their number. -/
structure Fits (orderBy : List OrderKey) (set : FieldSet) (events : List Event) : Prop where
  columns : ∃ columns, Coordinator.columnsOf set.fields = .ok columns ∧
    ∀ key ∈ orderBy, (Gathering.lookup? columns key.column).isSome = true
  rows : ∀ packet ∈ offered events, (Row.read packet.payload set.fields.length).isOk = true

namespace ShardReply

theorem mem_events {reply : ShardReply} {event : Event} :
    event ∈ reply.events ↔
      event = .field reply.columns.header reply.columns.fields reply.columns.eof reply.connection ∨
        (∃ packet ∈ reply.rows, .row packet reply.connection = event) ∨
          event = .eof reply.eof reply.connection := by
  rw [events, List.cons_append, List.mem_cons, List.mem_append, List.mem_map, List.mem_singleton]

theorem countP_events (reply : ShardReply) : reply.events.countP Event.isFinal = 1 := by
  have rows : (reply.rows.map fun packet => Event.row packet reply.connection).countP
      Event.isFinal = 0 := by
    rw [List.countP_map]
    exact List.countP_eq_zero.mpr fun _ _ => Bool.false_ne_true
  rw [events, List.countP_append, List.countP_cons, rows]
  rfl

theorem head_events (reply : ShardReply) :
    reply.events.head? = some (.field reply.columns.header reply.columns.fields reply.columns.eof
      reply.connection) :=
  rfl

theorem getLast_events (reply : ShardReply) :
    reply.events.getLast? = some (.eof reply.eof reply.connection) :=
  List.getLast?_concat

end ShardReply

/-! ### Replies without a failure -/

/-- Columns have all that an order names if the first that they lack is none. -/
theorem misfit?_of_columns {orderBy : List OrderKey} {fields : List Packet}
    (fits : ∃ columns, Coordinator.columnsOf fields = .ok columns ∧
      ∀ key ∈ orderBy, (Gathering.lookup? columns key.column).isSome = true) :
    Coordinator.misfit? orderBy fields = none := by
  obtain ⟨columns, read, named⟩ := fits
  have found : Gathering.missing? columns orderBy = none := by
    refine List.find?_eq_none.mpr fun key inside => ?_
    rw [Option.isNone_iff_eq_none, ← ne_eq, ← Option.isSome_iff_ne_none]
    exact named key inside
  simp only [Coordinator.misfit?, read, found, Option.map_none]

/-- Nothing of a reply fails once columns have come in that it fits. -/
theorem fault?_of_readable {orderBy : List OrderKey} {set : FieldSet} {reply : ShardReply}
    {event : Event} (member : event ∈ reply.events)
    (readable : ∀ packet, event.row? = some packet →
      (Row.read packet.payload set.fields.length).isOk = true) :
    fault? orderBy (some set) event = none := by
  rcases ShardReply.mem_events.mp member with rfl | ⟨packet, -, rfl⟩ | rfl
  · rfl
  · have fine := readable packet rfl
    cases read : Row.read packet.payload set.fields.length with
    | ok row => simp only [fault?, Option.map_some, Gathering.refused?, read, Option.map_none]
    | error cause =>
      rw [read] at fine
      cases fine
  · rfl

theorem firstFailure?_eq_none {orderBy : List OrderKey} {set : FieldSet} {events : List Event}
    (sound : ∀ event ∈ events, fault? orderBy (some set) event = none) :
    firstFailure? orderBy (some set) events = none := by
  induction events with
  | nil => rfl
  | cons event rest ih =>
    rw [firstFailure?, sound event List.mem_cons_self, Option.none_or, Option.some_or]
    exact ih fun other inside => sound other (List.mem_cons_of_mem _ inside)

/-- **Replies that fit do not fail.** -/
theorem firstFailure?_of_fits {orderBy : List OrderKey} {set : FieldSet} {connection : Connection}
    {rest : List Event}
    (fits : Fits orderBy set (.field set.header set.fields set.eof connection :: rest))
    (replies : ∀ event ∈ rest, ∃ reply : ShardReply, event ∈ reply.events) :
    firstFailure? orderBy none (.field set.header set.fields set.eof connection :: rest) =
      none := by
  have first : fault? orderBy none (.field set.header set.fields set.eof connection) = none := by
    simp only [fault?, Option.isSome_none, Bool.false_eq_true, if_false,
      misfit?_of_columns fits.columns, Option.map_none]
  rw [firstFailure?, first, Option.none_or, Option.none_or]
  refine firstFailure?_eq_none fun event inside => ?_
  obtain ⟨reply, member⟩ := replies event inside
  refine fault?_of_readable member fun packet row => fits.rows packet ?_
  exact List.mem_filterMap.mpr ⟨event, List.mem_cons_of_mem _ inside, row⟩

namespace Coordinator

/-! ### What is gathered -/

/-- **What is gathered of a history**: the columns that came first, what to sort by, and the rows that
were offered. -/
structure Gathered (window : Window) (orderBy : List OrderKey) (history : List Event)
    (state : Coordinator) : Prop where
  window : state.gathering.window = window
  columns : state.fields = firstColumns? history
  sortKeys : state.gathering.sortKeys =
    (firstColumns? history).elim [] fun set => sortKeysOf orderBy set.fields
  rows : List.Forall₂ (ReadBy (firstColumns? history)) (offered history) state.gathering.rows

namespace Gathered

variable {window : Window} {orderBy : List OrderKey} {history : List Event} {state : Coordinator}

/-- An event without columns and rows adds nothing to what is gathered. -/
theorem concat_other (gathered : state.Gathered window orderBy history) (event : Event)
    (columns : event.columns? = none) (row : event.row? = none) :
    state.Gathered window orderBy (history ++ [event]) := by
  have same : firstColumns? (history ++ [event]) = firstColumns? history := by
    rw [firstColumns?_concat, columns, Option.or_none]
  have rows : offered (history ++ [event]) = offered history := by
    rw [offered, List.filterMap_append, List.filterMap_cons_none row, List.filterMap_nil,
      List.append_nil, ← offered]
  exact ⟨gathered.window, by rw [same]; exact gathered.columns,
    by rw [same]; exact gathered.sortKeys, by rw [same, rows]; exact gathered.rows⟩

/-- Columns are gathered if they are the first. -/
theorem concat_field (gathered : state.Gathered window orderBy history)
    (layout : state.Layout orderBy (firstColumns? history)) (set : FieldSet)
    (connection : Connection) (sound : state.failed = false)
    (whole : (state.onFields set connection).1.failure = none) :
    (state.onFields set connection).1.Gathered window orderBy
      (history ++ [.field set.header set.fields set.eof connection]) := by
  have rows : offered (history ++ [.field set.header set.fields set.eof connection]) =
      offered history := by
    rw [offered, List.filterMap_append, List.filterMap_cons_none rfl, List.filterMap_nil,
      List.append_nil, ← offered]
  have columns := firstColumns?_concat history (.field set.header set.fields set.eof connection)
  rw [onFields_eq, sound, Bool.false_or, layout.seen] at whole ⊢
  cases known : firstColumns? history with
  | some first =>
    rw [known, Option.some_or, ← known] at columns
    rw [Option.isSome_some, if_pos rfl]
    exact ⟨gathered.window, by rw [columns]; exact gathered.columns,
      by rw [columns]; exact gathered.sortKeys, by rw [columns, rows]; exact gathered.rows⟩
  | none =>
    rw [known, Option.none_or] at columns
    rw [known] at whole
    simp only [Option.isSome_none, Bool.false_eq_true, if_false, layout.orderBy] at whole ⊢
    cases misfit : misfit? orderBy set.fields with
    | some text =>
      rw [misfit] at whole
      cases whole
    | none =>
      refine ⟨gathered.window, columns.symm, ?_, ?_⟩
      · rw [columns]
        show sortKeysOf state.gathering.orderBy set.fields = _
        rw [layout.orderBy]
        rfl
      · rw [columns, rows]
        -- No row has been read before the columns, so the rows so far are none.
        refine gathered.rows.imp fun packet row readBy => ?_
        obtain ⟨first, found, -⟩ := readBy
        rw [known] at found
        cases found

/-- A row is gathered behind the others. -/
theorem concat_row (gathered : state.Gathered window orderBy history)
    (layout : state.Layout orderBy (firstColumns? history)) (packet : Packet)
    (connection : Connection) (sound : state.failed = false)
    (whole : (state.onRow packet).failure = none) :
    (state.onRow packet).Gathered window orderBy (history ++ [.row packet connection]) := by
  have columns := firstColumns?_concat history (.row packet connection)
  rw [show Event.columns? (.row packet connection) = none from rfl, Option.or_none] at columns
  have rows : offered (history ++ [.row packet connection]) = offered history ++ [packet] := by
    rw [offered, List.filterMap_append]
    rfl
  rw [onRow, if_neg (by rw [sound]; exact Bool.false_ne_true)] at whole ⊢
  rcases state.gathering.add_eq packet.payload with
    ⟨count, row, known, read, -, added⟩ | ⟨cause, -, rejected⟩
  · obtain ⟨set, found, same⟩ : ∃ set, firstColumns? history = some set ∧ set.fields.length = count :=
      Option.map_eq_some_iff.mp (layout.count.symm.trans known)
    rw [added]
    refine ⟨gathered.window, by rw [columns]; exact gathered.columns,
      by rw [columns]; exact gathered.sortKeys, ?_⟩
    rw [columns, rows]
    have here : ReadBy (firstColumns? history) packet row := ⟨set, found, by rw [same, read]⟩
    exact List.rel_append gathered.rows (List.Forall₂.cons here List.Forall₂.nil)
  · rw [rejected] at whole
    cases whole

/-- **Taking in an event gathers what it brings**, as long as nothing fails. -/
theorem absorb (gathered : state.Gathered window orderBy history)
    (knows : state.Knows orderBy history) (event : Event)
    (whole : (state.absorb event).failure = none) :
    (state.absorb event).Gathered window orderBy (history ++ [event]) := by
  have before := whole_of_absorb whole
  have sound := failed_of_whole before
  cases event with
  | ok packet connection =>
    have same := gathered.concat_other (.ok packet connection) rfl rfl
    cases read : OkReply.read packet.payload with
    | ok reply =>
      simp only [Coordinator.absorb, sound, read, Bool.false_eq_true, if_false]
      exact ⟨same.window, same.columns, same.sortKeys, same.rows⟩
    | error cause =>
      simp only [Coordinator.absorb, sound, read, Bool.false_eq_true, if_false]
      exact ⟨same.window, same.columns, same.sortKeys, same.rows⟩
  | field header fields ending connection =>
    exact gathered.concat_field (knows.layout before) ⟨header, fields, ending⟩ connection sound whole
  | row packet connection =>
    exact gathered.concat_row (knows.layout before) packet connection sound whole
  | error packet connection => cases whole
  | close reason => cases whole
  | eof packet connection => exact gathered.concat_other _ rfl rfl
  | setSql sql =>
    have same := gathered.concat_other (.setSql sql) rfl rfl
    exact ⟨same.window, same.columns, same.sortKeys, same.rows⟩

end Gathered

variable (session : Session) (sql : String) (shards : Nat) (window : Window)
  (orderBy : List OrderKey)

/-- **Every run gathers**, as long as replies are missing and nothing has failed. -/
theorem gathered_after (events : List Event) :
    let state := (run (step session) (awaiting sql shards window orderBy) events).1
    0 < state.remaining → state.failure = none → state.Gathered window orderBy events := by
  suffices both : (run (step session) (awaiting sql shards window orderBy) events).1.Knows orderBy
      events ∧ _ from both.2
  refine run_induction (step session)
    (motive := fun history state => state.Knows orderBy history ∧
      (0 < state.remaining → state.failure = none → state.Gathered window orderBy history)) ?_ ?_ events
  · exact ⟨⟨rfl, fun _ => ⟨rfl, rfl, rfl⟩⟩, fun _ _ => ⟨rfl, rfl, rfl, List.Forall₂.nil⟩⟩
  · rintro history state event ⟨knows, gathers⟩
    refine ⟨(knows.absorb event).of_lasting (step_lasting session state event), ?_⟩
    intro waiting whole
    have counted := step_remaining session state event
    obtain ⟨remaining, next⟩ := step_waiting session state waiting
    rw [next] at whole ⊢
    have gathered := (gathers (by omega) (whole_of_absorb whole)).absorb knows event whole
    exact ⟨gathered.window, gathered.columns, gathered.sortKeys, gathered.rows⟩

/-! ### How replies come in -/

section Arrivals

variable {shards : Nat} {replies : Fin shards → ShardReply} {arrivals : List (Fin shards × Event)}

/-- Complete replies begin with columns. -/
theorem opening_of_interleaves (someShard : 0 < shards)
    (interleaved : Interleaves (fun shard => (replies shard).events) arrivals) :
    ∃ (set : FieldSet) (connection : Connection) (rest : List Event),
      arrivals.map Prod.snd = .field set.header set.fields set.eof connection :: rest := by
  have some := interleaved.ne_nil ⟨0, someShard⟩ (List.cons_ne_nil _ _)
  obtain ⟨first, rest, rfl⟩ := List.exists_cons_of_ne_nil some
  have opening := interleaved.head
  rw [ShardReply.head_events] at opening
  exact ⟨(replies first.1).columns, (replies first.1).connection, rest.map Prod.snd,
    by rw [List.map_cons, ← Option.some.inj opening]⟩

/-- Complete replies end with an end of rows. -/
theorem closing_of_interleaves (someShard : 0 < shards)
    (interleaved : Interleaves (fun shard => (replies shard).events) arrivals) :
    ∃ (before : List Event) (packet : Packet) (connection : Connection),
      arrivals.map Prod.snd = before ++ [.eof packet connection] := by
  have some := interleaved.ne_nil ⟨0, someShard⟩ (List.cons_ne_nil _ _)
  obtain ⟨before, last, rfl⟩ := (List.eq_nil_or_concat' arrivals).resolve_left some
  have closing := interleaved.last
  rw [ShardReply.getLast_events] at closing
  exact ⟨before.map Prod.snd, (replies last.1).eof, (replies last.1).connection,
    by rw [List.map_append, List.map_singleton, ← Option.some.inj closing]⟩

end Arrivals

/-! ### The response -/

/-- **The result set of some events**: the columns that came first, the rows that were offered one for
one, these rows merged, and the end of rows that came last. -/
structure ResultSet (orderBy : List OrderKey) (events : List Event) where
  columns : FieldSet
  rows : List Row
  merged : List Row
  ending : Packet
  first : firstColumns? events = some columns
  read : List.Forall₂ (ReadBy (some columns)) (offered events) rows
  mergedBy : MergedBy (sortKeysOf orderBy columns.fields) rows merged
  last : lastEof? events = some ending

/-- The packets of a result set, as far as the window lets its rows through. -/
def ResultSet.packets {orderBy : List OrderKey} {events : List Event}
    (result : ResultSet orderBy events) (window : Window) : List Packet :=
  result.columns.packets ++ (window.cut result.merged).map rowPacket ++ [result.ending]

/-- A window lets no row through that was not offered. -/
theorem ResultSet.mem_cut {orderBy : List OrderKey} {events : List Event}
    (result : ResultSet orderBy events) {window : Window} {row : Row}
    (inside : row ∈ window.cut result.merged) :
    ∃ packet ∈ offered events, ReadBy (some result.columns) packet row := by
  have merged : row ∈ result.merged := by
    obtain ⟨offset, _ | limit⟩ := window
    · exact List.mem_of_mem_drop inside
    · exact List.mem_of_mem_drop (List.mem_of_mem_take inside)
  exact exists_of_mem_results result.read (result.mergedBy.perm.mem_iff.mp merged)

/-- What is gathered of a history is its result set, and the response is the window of it. -/
theorem Gathered.response_eof {window : Window} {orderBy : List OrderKey} {history : List Event}
    {state : Coordinator} (gathered : state.Gathered window orderBy history)
    (whole : state.failure = none) {columns : FieldSet} {ending : Packet} (connection : Connection)
    (first : firstColumns? history = some columns) (last : lastEof? history = some ending) :
    ∃ result : ResultSet orderBy history, response (.eof ending connection) state =
      .result (some result.columns) (window.cut result.merged) result.ending := by
  have sortKeys := gathered.sortKeys
  have rows := gathered.rows
  have merged := state.gathering.merged_mergedBy
  rw [first] at sortKeys rows
  rw [sortKeys] at merged
  refine ⟨⟨columns, _, _, ending, first, rows, merged, last⟩, ?_⟩
  unfold response
  rw [failed_of_whole whole, if_neg Bool.false_ne_true, gathered.columns, first, gathered.window]

/-- **Where nothing fails and the last reply ends with an end of rows, the response is the window of the
result set.** -/
theorem result_at_last_eof {events before : List Event} {ending : Packet} {connection : Connection}
    {set : FieldSet} (closing : events = before ++ [.eof ending connection])
    (last : finals events = shards) (sound : firstFailure? orderBy none events = none)
    (first : firstColumns? events = some set) :
    ∃ result : ResultSet orderBy events,
      (Response.result (some result.columns) (window.cut result.merged) result.ending).Reaches session
        (run (step session) (awaiting sql shards window orderBy) events).2 := by
  subst closing
  have one := remaining_before_last session sql shards window orderBy rfl last
  have reaches := response_at_last session sql shards window orderBy [] rfl last
  have whole : (run (step session) (awaiting sql shards window orderBy) before).1.failure = none := by
    rw [(knows_after session sql shards window orderBy before).failure]
    rw [firstFailure?_concat] at sound
    exact (Option.or_eq_none_iff.mp sound).1
  have gathered := (gathered_after session sql shards window orderBy before (by omega) whole).concat_other
    (.eof ending connection) rfl rfl
  have counted : Gathered window orderBy (before ++ [.eof ending connection])
      { (run (step session) (awaiting sql shards window orderBy) before).1 with remaining := 0 } :=
    ⟨gathered.window, gathered.columns, gathered.sortKeys, gathered.rows⟩
  have ends : lastEof? (before ++ [.eof ending connection]) = some ending := by
    rw [lastEof?, List.filterMap_append]
    exact List.getLast?_concat
  obtain ⟨result, response⟩ := counted.response_eof whole connection first ends
  exact ⟨result, response ▸ reaches⟩

/-- **The merged rows are the response.** However complete replies come in, if they fit the columns that
come first the client is written one result set and nothing else, in packets numbered from one on: these
columns, the rows that the window lets through, each of which was offered, and the last end of rows. -/
theorem merged_rows_are_response (replies : Fin shards → ShardReply)
    (arrivals : List (Fin shards × Event)) (someShard : 0 < shards)
    (interleaved : Interleaves (fun shard => (replies shard).events) arrivals)
    (fits : ∀ set, firstColumns? (arrivals.map Prod.snd) = some set →
      Fits orderBy set (arrivals.map Prod.snd)) :
    let events := arrivals.map Prod.snd
    let effects := (run (step session) (awaiting sql shards window orderBy) events).2
    ∃ result : ResultSet orderBy events,
      savepoints effects = [] ∧
        (written effects).flatten = wire (numbered (result.packets window)) ∧
        (window.cut result.merged).length = window.emitted (offered events).length ∧
        ∀ row ∈ window.cut result.merged,
          ∃ packet ∈ offered events, ReadBy (some result.columns) packet row := by
  intro events effects
  obtain ⟨set, opener, rest, opening⟩ := opening_of_interleaves someShard interleaved
  obtain ⟨before, ending, closer, closing⟩ := closing_of_interleaves someShard interleaved
  have last : finals events = shards :=
    interleaved.countP fun shard => (replies shard).countP_events
  have first : firstColumns? events = some set := (congrArg firstColumns? opening).trans rfl
  have sound : firstFailure? orderBy none events = none := by
    have fit : Fits orderBy set events := fits set first
    rw [show events = _ from opening] at fit ⊢
    refine firstFailure?_of_fits fit fun event inside => ?_
    have member : event ∈ arrivals.map Prod.snd := opening ▸ List.mem_cons_of_mem _ inside
    obtain ⟨shard, member⟩ := interleaved.mem member
    exact ⟨_, member⟩
  obtain ⟨result, deferred, told⟩ :=
    result_at_last_eof session sql shards window orderBy closing last sound first
  refine ⟨result, deferred, told, ?_, fun row inside => result.mem_cut inside⟩
  rw [window.length_cut, result.mergedBy.perm.length_eq, result.read.length_eq]

/-- The columns of a result of one number. -/
def oneNumber : FieldSet :=
  { header := ⟨1, ResultHeader.payload ⟨1⟩⟩
    fields := [⟨2, FieldReply.payload { name := "id", columnType := 0x03 }⟩]
    eof := ⟨3, EofReply.payload { status := 2 }⟩ }

/-- A reply of a single digit. -/
def digitReply (connection : Connection) (digit : UInt8) : ShardReply :=
  { connection
    columns := oneNumber
    rows := [⟨4, Row.payload ⟨[some [digit]]⟩⟩]
    eof := ⟨5, EofReply.payload { status := 2 }⟩ }

/-- Two replies that come in by turns are one result set, in the order of their rows. -/
theorem two_digits_are_response :
    let session : Session := { front := { threshold := 16 } }
    let replies : Fin 2 → ShardReply := ![digitReply default 0x37, digitReply default 0x33]
    let turn (place : Nat) : List (Fin 2 × Event) :=
      List.finRange 2 |>.filterMap fun shard => ((replies shard).events[place]?).map (shard, ·)
    let arrivals := turn 0 ++ turn 1 ++ turn 2
    let events := arrivals.map Prod.snd
    let effects := (run (step session) (awaiting "" 2 ⟨0, some 1⟩ [⟨"ID", true⟩]) events).2
    ∃ result : ResultSet [⟨"ID", true⟩] events,
      savepoints effects = [] ∧
        (written effects).flatten = wire (numbered (result.packets ⟨0, some 1⟩)) := by
  intro session replies turn arrivals events effects
  have interleaved : Interleaves (fun shard => (replies shard).events) arrivals := by decide
  have fits : Fits [⟨"ID", true⟩] oneNumber events :=
    ⟨⟨[("ID", ⟨0, 0x03⟩)], rfl, by decide⟩, by decide⟩
  obtain ⟨result, deferred, told, -⟩ := merged_rows_are_response session "" 2 ⟨0, some 1⟩
    [⟨"ID", true⟩] replies arrivals (by decide) interleaved fun set first => by
      obtain rfl : oneNumber = set := Option.some.inj first
      exact fits
  exact ⟨result, deferred, told⟩

end Coordinator

end ScatterGather
