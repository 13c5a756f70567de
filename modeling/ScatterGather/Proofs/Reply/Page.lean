/-
**A page of the merged result.**

A query with a window that goes to several shards asks each of them for its first rows alone. The client
gets the same rows as if every shard had sent all it has:

* `OrderedShards`: the rows that the shards have, each of them in the order of the result;
* `BringsFirst`: replies that bring the first rows of every shard, one for one, in the order in which
  all rows would have come in;
* `rows_of_bringsFirst` — what is gathered of such replies **is those rows**;
* `cut_of_first_rows` — a window **cannot tell** the first rows of every shard from all rows;
* `page_of_first_rows` — what the client is written is the window of all rows merged, between the first
  columns and the last end of rows; and the shards **are asked for** as many rows.
-/
import ScatterGather.Proofs.Gather.FirstRows
import ScatterGather.Proofs.Reply.ResultSet
import ScatterGather.Proofs.Routing.Widened

namespace ScatterGather

open Wire

section Page

variable {shards : Nat}

/-! ### Rows of several shards -/

/-- The rows that come in, with the shards that they come from. -/
def rowArrivals (arrivals : List (Fin shards × Event)) : List (Fin shards × Packet) :=
  arrivals.filterMap fun arrival => arrival.2.row?.map fun packet => (arrival.1, packet)

theorem rowArrivals_offered (arrivals : List (Fin shards × Event)) :
    (rowArrivals arrivals).map Prod.snd = offered (arrivals.map Prod.snd) := by
  rw [rowArrivals, offered, List.map_filterMap, List.filterMap_map]
  refine congrArg (List.filterMap · arrivals) (funext fun arrival => ?_)
  show (arrival.2.row?.map _).map Prod.snd = arrival.2.row?
  rw [Option.map_map]
  exact Option.map_id'

/-- The rows that shards have, and an order in which all of them could come in: every shard has its own
in the order of the result, which orders them all, and a statement can ask for as many. -/
structure OrderedShards (keys : List SortKey) (lists : Fin shards → List Row)
    (all : List (Fin shards × Row)) : Prop where
  complete : Interleaves lists all
  few : all.length < UInt64.size
  total : TotalOn (compareRows keys) (all.map Prod.snd)
  sorted : ∀ shard, (lists shard).Pairwise fun earlier later =>
    (compareRows keys earlier later).isLE = true

/-- Replies that fit the columns that come first, and bring the first `count` rows of every shard in
the order in which all rows would have come in. -/
structure BringsFirst (orderBy : List OrderKey) (count : Nat) (set : FieldSet)
    (all : List (Fin shards × Row)) (replies : Fin shards → ShardReply)
    (arrivals : List (Fin shards × Event)) : Prop where
  interleaved : Interleaves (fun shard => (replies shard).events) arrivals
  first : firstColumns? (arrivals.map Prod.snd) = some set
  fits : Fits orderBy set (arrivals.map Prod.snd)
  limited : List.Forall₂ (fun sent row => sent.1 = row.1 ∧ ReadBy (some set) sent.2 row.2)
    (rowArrivals arrivals) (firstOf count all)

/-! ### Rows and windows -/

theorem readBy_unique (columns : Option FieldSet) : Relator.RightUnique (ReadBy columns) := by
  rintro packet row other ⟨set, known, read⟩ ⟨same, found, again⟩
  obtain rfl : set = same := Option.some.inj (known.symm.trans found)
  exact Except.ok.inj (read.symm.trans again)

/-- **What is gathered** of replies that bring the first rows is these rows. -/
theorem rows_of_bringsFirst {orderBy : List OrderKey} {count : Nat} {set : FieldSet}
    {all : List (Fin shards × Row)} {replies : Fin shards → ShardReply}
    {arrivals : List (Fin shards × Event)}
    (brings : BringsFirst orderBy count set all replies arrivals) {rows : List Row}
    (read : List.Forall₂ (ReadBy (some set)) (offered (arrivals.map Prod.snd)) rows) :
    rows = (firstOf count all).map Prod.snd := by
  have limited : List.Forall₂ (ReadBy (some set)) (offered (arrivals.map Prod.snd))
      ((firstOf count all).map Prod.snd) := by
    rw [← rowArrivals_offered, List.forall₂_map_left_iff, List.forall₂_map_right_iff]
    exact brings.limited.imp fun _ _ both => both.2
  exact (readBy_unique (some set)).forall₂ read limited

/-- **A window cannot tell** the first rows of every shard from all rows. -/
theorem cut_of_first_rows {keys : List SortKey} {lists : Fin shards → List Row}
    {all : List (Fin shards × Row)} (ordered : OrderedShards keys lists all) (limit : Limit)
    {merged few : List Row} (isMerged : MergedBy keys (all.map Prod.snd) merged)
    (isFew : MergedBy keys ((firstOf (Facts.Limit.widened limit) all).map Prod.snd) few) :
    limit.window.cut few = (merged.drop limit.offset).take limit.limit := by
  have page : ∀ rows : List Row, (rows.drop limit.offset).take limit.limit =
      (rows.take (limit.offset + limit.limit)).drop limit.offset := fun rows => by
    rw [List.drop_take, Nat.add_sub_cancel_left]
  show (few.drop limit.offset).take limit.limit = _
  by_cases saturated : limit.offset + limit.limit ≤ 0xffffffffffffffff
  · have widened : limit.offset + limit.limit ≤ Facts.Limit.widened limit :=
      Nat.le_min.mpr ⟨Nat.le_refl _, saturated⟩
    rw [page, page, take_merged_firstOf widened ordered.total (fun shard => ?_) isMerged isFew]
    rw [ordered.complete shard]
    exact ordered.sorted shard
  · -- There are not as many rows, so that no shard leaves one out.
    have whole : firstOf (Facts.Limit.widened limit) all = all := by
      refine firstOf_eq_self (Nat.le_min.mpr ⟨?_, Nat.le_of_lt_succ ordered.few⟩)
      have few := ordered.few
      unfold UInt64.size at few
      omega
    rw [whole] at isFew
    rw [isFew.unique ordered.total isMerged]

namespace Coordinator

variable (session : Session) (sql : String) (orderBy : List OrderKey)

/-- Replies that bring the first rows are answered with a result set of them. -/
theorem result_of_bringsFirst (window : Window) {count : Nat} {set : FieldSet}
    {all : List (Fin shards × Row)} {replies : Fin shards → ShardReply}
    {arrivals : List (Fin shards × Event)} (someShard : 0 < shards)
    (brings : BringsFirst orderBy count set all replies arrivals) :
    ∃ result : ResultSet orderBy (arrivals.map Prod.snd),
      result.columns = set ∧ result.rows = (firstOf count all).map Prod.snd ∧
        (Response.result (some set) (window.cut result.merged) result.ending).Reaches session
          (run (step session) (awaiting sql shards window orderBy) (arrivals.map Prod.snd)).2 := by
  obtain ⟨opened, opener, rest, opening⟩ := opening_of_interleaves someShard brings.interleaved
  obtain ⟨before, ending, closer, closing⟩ := closing_of_interleaves someShard brings.interleaved
  have last : finals (arrivals.map Prod.snd) = shards :=
    brings.interleaved.countP fun shard => (replies shard).countP_events
  have same : opened = set :=
    Option.some.inj ((congrArg firstColumns? opening).symm.trans brings.first)
  have sound : firstFailure? orderBy none (arrivals.map Prod.snd) = none := by
    have fits := brings.fits
    rw [opening, ← same] at fits
    rw [opening]
    refine firstFailure?_of_fits fits fun event inside => ?_
    have member : event ∈ arrivals.map Prod.snd := opening ▸ List.mem_cons_of_mem _ inside
    obtain ⟨shard, member⟩ := brings.interleaved.mem member
    exact ⟨_, member⟩
  obtain ⟨result, reaches⟩ :=
    result_at_last_eof session sql shards window orderBy closing last sound brings.first
  have columns : result.columns = set := Option.some.inj (result.first.symm.trans brings.first)
  rw [columns] at reaches
  have read := result.read
  rw [columns] at read
  exact ⟨result, columns, rows_of_bringsFirst brings read, reaches⟩

/-- **A page of first rows.** Let every shard have its rows in the order of the result, which is a total
preorder on them, and let it send only as many of its first ones as a window of all rows asks it for.
However they come in, the client is written what the window lets through of *all* rows, merged, and
nothing else, in packets numbered from one on. And as many rows are asked for: any query with that window
that goes to several shards is sent to them for their first rows, with its window and its order left to
the result. -/
theorem page_of_first_rows (limit : Limit) (someShard : 0 < shards) {set : FieldSet}
    {lists : Fin shards → List Row} {all : List (Fin shards × Row)}
    (ordered : OrderedShards (sortKeysOf orderBy set.fields) lists all)
    {replies : Fin shards → ShardReply} {arrivals : List (Fin shards × Event)}
    (brings : BringsFirst orderBy (Facts.Limit.widened limit) set all replies arrivals)
    {merged : List Row}
    (isMerged : MergedBy (sortKeysOf orderBy set.fields) (all.map Prod.snd) merged) :
    (∃ ending, lastEof? (arrivals.map Prod.snd) = some ending ∧
      let effects :=
        (run (step session) (awaiting sql shards limit.window orderBy) (arrivals.map Prod.snd)).2
      savepoints effects = [] ∧
        (written effects).flatten = wire (numbered (set.packets ++
          ((merged.drop limit.offset).take limit.limit).map rowPacket ++ [ending]))) ∧
      ∀ {schema : Schema} {text charset : String} {kind : Sql.Kind} {plan : Plan} {query : Sql.Query},
        Sql.Statement.parse text = .ok (.query query) → Facts.limit? query = some limit →
          route schema text charset kind = .ok (.all plan) → 1 < plan.outlets.length →
            Widens limit query plan := by
  obtain ⟨result, columns, rows, deferred, told⟩ :=
    result_of_bringsFirst session sql orderBy limit.window someShard brings
  have isFew := result.mergedBy
  rw [columns, rows] at isFew
  rw [cut_of_first_rows ordered limit isMerged isFew] at told
  exact ⟨⟨result.ending, result.last, deferred, told⟩, plan_widens⟩

end Coordinator

end Page

namespace Coordinator

/-- A row of a single digit. -/
def digitRow (digit : UInt8) : Row :=
  ⟨[some [digit]]⟩

/-- A reply of some digits. -/
def digitsReply (digits : List UInt8) : ShardReply :=
  { digitReply default 0x30 with rows := digits.map fun digit => ⟨4, (digitRow digit).payload⟩ }

/-- The second of the digits 1 to 5 is on the second page of one row, of which the shards that have the
odd and the even ones send two digits each. -/
theorem second_digit_is_page :
    let sql := "SELECT id FROM users ORDER BY id LIMIT 1 OFFSET 1"
    let session : Session := { front := { threshold := 16 } }
    let replies : Fin 2 → ShardReply := ![digitsReply [0x31, 0x33], digitsReply [0x32, 0x34]]
    let turn (place : Nat) : List (Fin 2 × Event) :=
      List.finRange 2 |>.filterMap fun shard => ((replies shard).events[place]?).map (shard, ·)
    let arrivals := turn 0 ++ turn 1 ++ turn 2 ++ turn 3
    let events := arrivals.map Prod.snd
    let effects := (run (step session) (awaiting sql 2 ⟨1, some 1⟩ [⟨"ID", true⟩]) events).2
    (∃ ending, savepoints effects = [] ∧
      (written effects).flatten =
        wire (numbered (oneNumber.packets ++ [rowPacket (digitRow 0x32)] ++ [ending]))) ∧
      ∃ plan query, route ((Schema.ofLayout (Layout.demo 2)).toOption.getD default) sql "utf8mb4"
          .select = .ok (.all plan) ∧ Widens ⟨1, 1⟩ query plan := by
  intro sql session replies turn arrivals events effects
  let schema := (Schema.ofLayout (Layout.demo 2)).toOption.getD default
  let statement := (Sql.Statement.parse sql).toOption.getD default
  let query := statement.query?.getD default
  let result := (route schema sql "utf8mb4" .select).toOption.getD (.anyOf [] sql)
  let plan := result.pick fun _ => 0
  let all : List (Fin 2 × Row) :=
    [(0, digitRow 0x31), (1, digitRow 0x32), (0, digitRow 0x33), (1, digitRow 0x34),
      (0, digitRow 0x35)]
  have total : TotalOn (compareRows (sortKeysOf [⟨"ID", true⟩] oneNumber.fields))
      (all.map Prod.snd) := ⟨by decide +kernel, by decide +kernel⟩
  have ordered : OrderedShards (sortKeysOf [⟨"ID", true⟩] oneNumber.fields)
      ![[digitRow 0x31, digitRow 0x33, digitRow 0x35], [digitRow 0x32, digitRow 0x34]] all :=
    ⟨by decide, by decide, total, by decide +kernel⟩
  have limited : List.Forall₂ (fun sent row => sent.1 = row.1 ∧ Row.read sent.2.payload 1 = .ok row.2)
      (rowArrivals arrivals) (firstOf 2 all) := by decide
  have brings : BringsFirst [⟨"ID", true⟩] 2 oneNumber all replies arrivals :=
    ⟨by decide, rfl, ⟨⟨[("ID", ⟨0, 0x03⟩)], rfl, by decide⟩, by decide⟩,
      limited.imp fun _ _ both => ⟨both.1, oneNumber, rfl, both.2⟩⟩
  obtain ⟨⟨ending, -, deferred, told⟩, widens⟩ :=
    page_of_first_rows session sql [⟨"ID", true⟩] ⟨1, 1⟩ (by decide) ordered brings
      (sortRows_mergedBy _ _)
  obtain ⟨isParsed, isQuery, windowed⟩ : (Sql.Statement.parse sql).isOk = true ∧
      statement.query?.isSome = true ∧ Facts.limit? query = some ⟨1, 1⟩ := by
    decide +kernel
  have parsed : Sql.Statement.parse sql = .ok (.query query) :=
    (eq_ok_of_isOk isParsed default).trans
      (congrArg Except.ok (Sql.Statement.eq_of_query? (eq_some_of_isSome isQuery default)))
  obtain ⟨isRouted, isPlan, several⟩ : (route schema sql "utf8mb4" .select).isOk = true ∧
      result = .all plan ∧ 1 < plan.outlets.length := by
    decide +kernel
  have routed : route schema sql "utf8mb4" .select = .ok (.all plan) :=
    (eq_ok_of_isOk isRouted (.anyOf [] sql)).trans (congrArg Except.ok isPlan)
  have page : (((sortRows (compareRows (sortKeysOf [⟨"ID", true⟩] oneNumber.fields))
      (all.map Prod.snd)).drop 1).take 1) = [digitRow 0x32] := by decide +kernel
  rw [page] at told
  exact ⟨⟨ending, deferred, told⟩, plan, query, routed, widens parsed windowed routed several⟩

end Coordinator

end ScatterGather
