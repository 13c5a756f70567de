/-
**The totals of all successes.**

A shard that returns no rows replies with one event: a success, a failure, or the end of its connection.
What the client is told of such replies must not depend on which shard is the fastest:

* `Event.isBrief`, `Event.success?`: the replies of one event, and the success that one tells of;
* `firstFailure?_of_brief` — a failure is found **exactly where some reply tells of no success**;
* `IsLeastId`: the least insert id other than zero, told by what is in a list and not by its order;
* `Summed`: **the invariant** — as long as nothing has failed, the totals are those of the successes so
  far;
* `response_isFailure_iff` — where some reply tells of no success, **a failure is told**, and only there;
* `totals_in_any_order` — in whatever order replies come in, they are answered with a failure or with
  the same totals, and only **what else the last success says** is that of the last reply.
-/
import Mathlib.Algebra.GroupWithZero.Nat
import Mathlib.Data.List.Basic
import ScatterGather.Proofs.Reply.FirstFailure

namespace ScatterGather

open Wire

/-! ### Replies of one event -/

/-- Tells whether an event is a whole reply: a success, a failure or the end of a connection. -/
def Event.isBrief : Event → Bool
  | .ok .. | .error .. | .close _ => true
  | _ => false

/-- The success that an event tells of, if it is one that can be read. -/
def Event.success? : Event → Option OkReply
  | .ok packet _ => (OkReply.read packet.payload).toOption
  | _ => none

/-- The successes among some events. -/
def successes (events : List Event) : List OkReply :=
  events.filterMap Event.success?

/-- The number of rows that all successes together are about. -/
def affectedTotal (replies : List OkReply) : Nat :=
  (replies.map fun reply => reply.affectedRows.toNat).sum

/-- The least of some ids other than zero, and zero if there is no other. -/
structure IsLeastId (ids : List UInt64) (id : UInt64) : Prop where
  among : id = 0 ∨ id ∈ ids
  least : ∀ other ∈ ids, other ≠ 0 → id ≠ 0 ∧ id ≤ other

theorem success?_eq_some {packet : Packet} {connection : Connection} {reply : OkReply} :
    Event.success? (.ok packet connection) = some reply ↔ OkReply.read packet.payload = .ok reply := by
  rw [Event.success?]
  cases OkReply.read packet.payload with
  | ok other => exact ⟨fun same => congrArg Except.ok (Option.some.inj same), fun same =>
      congrArg some (Except.ok.inj same)⟩
  | error cause => exact ⟨nofun, nofun⟩

theorem successes_concat (events : List Event) (event : Event) :
    successes (events ++ [event]) = successes events ++ event.success?.toList := by
  unfold successes
  rw [List.filterMap_append]
  cases success : event.success? with
  | none => rw [List.filterMap_cons_none success, List.filterMap_nil, Option.toList_none]
  | some reply => rw [List.filterMap_cons_some success, List.filterMap_nil, Option.toList_some]

theorem IsLeastId.congr {ids others : List UInt64} {id : UInt64} (least : IsLeastId ids id)
    (same : ∀ id, id ∈ ids ↔ id ∈ others) : IsLeastId others id where
  among := least.among.imp_right (same id).mp
  least other inside some := least.least other ((same other).mpr inside) some

/-- One more id, which counts unless it is zero. -/
theorem IsLeastId.concat {ids : List UInt64} {id : UInt64} (least : IsLeastId ids id)
    (other : UInt64) :
    IsLeastId (ids ++ [other])
      (if other = 0 then id else if id = 0 then other else min id other) := by
  have member : ∀ {found : UInt64}, found ∈ ids ++ [other] ↔ found ∈ ids ∨ found = other := by
    intro found
    rw [List.mem_append, List.mem_singleton]
  by_cases none : other = 0
  · rw [if_pos none]
    refine ⟨least.among.imp_right fun inside => member.mpr (Or.inl inside), fun found inside some => ?_⟩
    rcases member.mp inside with inside | rfl
    · exact least.least found inside some
    · exact absurd none some
  · rw [if_neg none]
    by_cases first : id = 0
    · rw [if_pos first]
      refine ⟨Or.inr (member.mpr (Or.inr rfl)), fun found inside some => ⟨none, ?_⟩⟩
      rcases member.mp inside with inside | rfl
      · exact absurd first (least.least found inside some).1
      · exact UInt64.le_refl _
    · rw [if_neg first]
      have isMin : min id other = if id ≤ other then id else other := rfl
      rw [isMin]
      split
      · next less =>
        refine ⟨least.among.imp_right fun inside => member.mpr (Or.inl inside),
          fun found inside some => ⟨first, ?_⟩⟩
        rcases member.mp inside with inside | rfl
        · exact (least.least found inside some).2
        · exact less
      · next greater =>
        refine ⟨Or.inr (member.mpr (Or.inr rfl)), fun found inside some => ⟨none, ?_⟩⟩
        rcases member.mp inside with inside | rfl
        · have below := (least.least found inside some).2
          rw [UInt64.le_iff_toNat_le] at below greater ⊢
          omega
        · exact UInt64.le_refl _

/-! ### Failures -/

theorem isFinal_of_isBrief {event : Event} (brief : event.isBrief = true) :
    event.isFinal = true := by
  cases event <;> first | rfl | cases brief

/-- A brief reply is a failure exactly if it tells of no success. -/
theorem fault?_of_brief {event : Event} (brief : event.isBrief = true) (orderBy : List OrderKey)
    (known : Option FieldSet) : fault? orderBy known event = none ↔ event.success?.isSome = true := by
  cases event with
  | ok packet connection =>
    cases read : OkReply.read packet.payload with
    | ok reply => simp only [fault?, Event.success?, read, Except.toOption, Option.isSome_some]
    | error cause =>
      simp only [fault?, Event.success?, read, Except.toOption, Option.isSome_none, reduceCtorEq,
        Bool.false_eq_true]
  | error packet connection =>
    cases read : ErrReply.read packet.payload <;>
      simp only [fault?, Event.success?, read, Option.isSome_none, reduceCtorEq, Bool.false_eq_true]
  | close reason => exact iff_of_false (Option.some_ne_none _) Bool.false_ne_true
  | field header fields ending connection => cases brief
  | row packet connection => cases brief
  | eof packet connection => cases brief
  | setSql sql => cases brief

/-- **A failure is found exactly where some brief reply tells of no success.** -/
theorem firstFailure?_of_brief {events : List Event} (brief : ∀ event ∈ events, event.isBrief = true)
    (orderBy : List OrderKey) (known : Option FieldSet) :
    firstFailure? orderBy known events = none ↔
      ∀ event ∈ events, event.success?.isSome = true := by
  induction events generalizing known with
  | nil => exact ⟨fun _ _ => nofun, fun _ => rfl⟩
  | cons event rest ih =>
    rw [firstFailure?, Option.or_eq_none_iff, fault?_of_brief (brief event List.mem_cons_self),
      ih fun other inside => brief other (List.mem_cons_of_mem _ inside), List.forall_mem_cons]

namespace Coordinator

/-! ### Totals -/

/-- **The totals after a history** are those of its successes. -/
structure Summed (history : List Event) (state : Coordinator) : Prop where
  affected : state.affectedRows = UInt64.ofNat (affectedTotal (successes history))
  insertId : IsLeastId ((successes history).map OkReply.insertId) state.insertId

theorem Summed.congr {history : List Event} {state other : Coordinator}
    (summed : state.Summed history) (affected : other.affectedRows = state.affectedRows)
    (insertId : other.insertId = state.insertId) : other.Summed history :=
  ⟨affected.trans summed.affected, by rw [insertId]; exact summed.insertId⟩

theorem Summed.concat_other {history : List Event} {state : Coordinator}
    (summed : state.Summed history) {event : Event} (other : event.success? = none) :
    state.Summed (history ++ [event]) := by
  have same : successes (history ++ [event]) = successes history := by
    rw [successes_concat, other, Option.toList_none, List.append_nil]
  exact ⟨by rw [same]; exact summed.affected, by rw [same]; exact summed.insertId⟩

theorem Summed.concat_success {history : List Event} {state : Coordinator}
    (summed : state.Summed history) {event : Event} {reply : OkReply}
    (success : event.success? = some reply) :
    (state.addOk reply).Summed (history ++ [event]) := by
  have more : successes (history ++ [event]) = successes history ++ [reply] := by
    rw [successes_concat, success, Option.toList_some]
  constructor
  · show state.affectedRows + reply.affectedRows = _
    rw [more, summed.affected, affectedTotal, affectedTotal, List.map_append, List.sum_append,
      UInt64.ofNat_add]
    simp
  · rw [more, List.map_append]
    exact summed.insertId.concat reply.insertId

theorem onFields_totals (state : Coordinator) (set : FieldSet) (connection : Connection) :
    (state.onFields set connection).1.affectedRows = state.affectedRows ∧
      (state.onFields set connection).1.insertId = state.insertId := by
  rw [onFields_eq]
  split
  · exact ⟨rfl, rfl⟩
  · split <;> exact ⟨rfl, rfl⟩

theorem onRow_totals (state : Coordinator) (packet : Packet) :
    (state.onRow packet).affectedRows = state.affectedRows ∧
      (state.onRow packet).insertId = state.insertId := by
  unfold onRow
  split
  · exact ⟨rfl, rfl⟩
  · cases state.gathering.add packet.payload <;> exact ⟨rfl, rfl⟩

/-- **Taking in an event adds what it tells of**, as long as nothing fails. -/
theorem Summed.absorb {history : List Event} {state : Coordinator} (summed : state.Summed history)
    (event : Event) (whole : (state.absorb event).failure = none) :
    (state.absorb event).Summed (history ++ [event]) := by
  have sound := failed_of_whole (whole_of_absorb whole)
  cases event with
  | ok packet connection =>
    cases read : OkReply.read packet.payload with
    | ok reply =>
      simp only [Coordinator.absorb, sound, read, Bool.false_eq_true, if_false]
      exact summed.concat_success (success?_eq_some.mpr read)
    | error cause =>
      simp only [Coordinator.absorb, sound, read, Bool.false_eq_true, if_false, failWith, fail] at whole
      cases whole
  | field header fields ending connection =>
    have kept := onFields_totals state ⟨header, fields, ending⟩ connection
    exact (summed.concat_other rfl).congr kept.1 kept.2
  | row packet connection =>
    have kept := onRow_totals state packet
    exact (summed.concat_other rfl).congr kept.1 kept.2
  | error packet connection => cases whole
  | eof packet connection => exact summed.concat_other rfl
  | close reason => cases whole
  | setSql sql => exact (summed.concat_other rfl).congr rfl rfl

variable (session : Session) (sql : String) (window : Window) (orderBy : List OrderKey)

/-- **Every run adds up its successes**, as long as nothing has failed. -/
theorem summed_after (shards : Nat) (events : List Event) :
    let state := (run (step session) (awaiting sql shards window orderBy) events).1
    state.failure = none → state.Summed events := by
  refine run_induction (step session)
    (motive := fun history state => state.failure = none → state.Summed history)
    (fun _ => ⟨rfl, Or.inl rfl, nofun⟩) ?_ events
  intro history state event summed whole
  have lasts := step_lasting session state event
  have taken : (state.absorb event).failure = none :=
    (congrArg Coordinator.failure lasts :).symm.trans whole
  refine ((summed (whole_of_absorb taken)).absorb event taken).congr ?_ ?_
  · exact (congrArg Coordinator.affectedRows lasts :)
  · exact (congrArg Coordinator.insertId lasts :)

/-! ### The response -/

/-- Where nothing has failed, the last success is told with the totals of all. -/
theorem response_of_success {state : Coordinator} (whole : state.failure = none) {event : Event}
    {last : OkReply} (success : event.success? = some last) :
    response event state = .totals (state.totals last) := by
  unfold response
  rw [failed_of_whole whole, if_neg Bool.false_ne_true]
  cases event with
  | ok packet connection => simp only [success?_eq_some.mp success]
  | _ => cases success

/-- The answer to the last reply. What it is made from has the first failure, and the totals of all
successes if there is none. -/
theorem answer_to_last {shards : Nat} {before : List Event} {event : Event}
    (final : event.isFinal = true) (last : finals (before ++ [event]) = shards) :
    ∃ state : Coordinator,
      (response event state).Reaches session
          (run (step session) (awaiting sql shards window orderBy) (before ++ [event])).2 ∧
        state.failure = firstFailure? orderBy none (before ++ [event]) ∧
        (state.failure = none → state.Summed (before ++ [event])) := by
  have knows := (knows_after session sql shards window orderBy before).absorb event
  refine ⟨_, response_at_last session sql shards window orderBy [] final last, knows.failure,
    fun whole => ?_⟩
  have summed := summed_after session sql window orderBy shards before (whole_of_absorb whole)
  exact (summed.absorb event whole).congr rfl rfl

theorem response_isFailure_iff {history : List Event}
    (brief : ∀ event ∈ history, event.isBrief = true) {state : Coordinator}
    (failure : state.failure = firstFailure? orderBy none history) {event : Event}
    (inside : event ∈ history) :
    (response event state).isFailure = true ↔ ∃ reply ∈ history, reply.success? = none := by
  have fails := firstFailure?_of_brief brief orderBy none
  cases found : firstFailure? orderBy none history with
  | some reply =>
    rw [response_broken (failure.trans found) event]
    refine iff_of_true rfl ?_
    by_contra sound
    have none := fails.mpr fun other inside => by
      rw [Option.isSome_iff_ne_none]
      exact fun none => sound ⟨other, inside, none⟩
    rw [found] at none
    cases none
  | none =>
    have sound := fails.mp found
    obtain ⟨last, success⟩ := Option.isSome_iff_exists.mp (sound event inside)
    rw [response_of_success (failure.trans found) success]
    refine iff_of_false Bool.false_ne_true ?_
    rintro ⟨reply, inside, none⟩
    have some := sound reply inside
    rw [none] at some
    cases some

/-- **Totals in any order.** Let the shards reply with one event each. In whatever order these come in,
the client is told one response. It is a failure exactly if some reply tells of no success; and if all
do, it is one success with the number of rows and the insert id of all of them together, whatever the
order, and with the status, the warnings and the message of the one that comes last. -/
theorem totals_in_any_order {replies : List Event} (someReply : replies ≠ [])
    (brief : ∀ reply ∈ replies, reply.isBrief = true)
    (fits : affectedTotal (successes replies) < UInt64.size) {order : List Event}
    (reordered : order.Perm replies) :
    let effects := (run (step session) (awaiting sql replies.length window orderBy) order).2
    ∃ response : Response, response.Reaches session effects ∧
      (response.isFailure = true ↔ ∃ reply ∈ replies, reply.success? = none) ∧
      ((∀ reply ∈ replies, reply.success?.isSome = true) →
        ∃ last total, order.getLast?.bind Event.success? = some last ∧ response = .totals total ∧
          total.affectedRows.toNat = affectedTotal (successes replies) ∧
          IsLeastId ((successes replies).map OkReply.insertId) total.insertId ∧
          total.status = last.status ∧ total.warnings = last.warnings ∧
          total.message = last.message) := by
  intro effects
  have same : ∀ {event}, event ∈ order ↔ event ∈ replies := reordered.mem_iff
  have briefly : ∀ event ∈ order, event.isBrief = true := fun event inside =>
    brief event (same.mp inside)
  obtain ⟨before, event, rfl⟩ : ∃ before event, order = before ++ [event] :=
    (List.eq_nil_or_concat' order).resolve_left fun none =>
      someReply (List.nil_perm.mp (none ▸ reordered))
  have inside : event ∈ before ++ [event] := List.mem_append_right _ List.mem_cons_self
  have counted : finals (before ++ [event]) = replies.length := by
    rw [← reordered.length_eq]
    exact List.countP_eq_length.mpr fun other inside => isFinal_of_isBrief (briefly other inside)
  obtain ⟨state, reaches, failure, totals⟩ :=
    answer_to_last session sql window orderBy (isFinal_of_isBrief (briefly event inside)) counted
  refine ⟨_, reaches, ?_, fun sound => ?_⟩
  · rw [response_isFailure_iff orderBy briefly failure inside]
    exact exists_congr fun reply => and_congr_left' same
  · have whole : state.failure = none := failure.trans <|
      (firstFailure?_of_brief briefly orderBy none).mpr fun other inside => sound other (same.mp inside)
    obtain ⟨affected, insertId⟩ := totals whole
    have succeeded : (successes (before ++ [event])).Perm (successes replies) :=
      reordered.filterMap Event.success?
    obtain ⟨last, success⟩ := Option.isSome_iff_exists.mp (sound event (same.mp inside))
    refine ⟨last, state.totals last, ?_, response_of_success whole success, ?_,
      insertId.congr fun _ => (succeeded.map _).mem_iff, rfl, rfl, rfl⟩
    · rw [List.getLast?_concat, Option.bind_some, success]
    · show state.affectedRows.toNat = _
      have total : affectedTotal (successes (before ++ [event])) = affectedTotal (successes replies) :=
        (succeeded.map _).sum_nat
      rw [affected, total, UInt64.toNat_ofNat', Nat.mod_eq_of_lt fits]

/-- A success of some rows, with an insert id. -/
def insertedReply (connection : Connection) (rows insertId : UInt64) (message : String) : Event :=
  .ok ⟨1, OkReply.payload { affectedRows := rows, insertId, message }⟩ connection

/-- Two successes that come in by turns are answered with the same totals. -/
theorem two_inserts_in_any_order :
    let replies := [insertedReply default 3 0 "first", insertedReply default 4 9 "second"]
    let session : Session := { front := { threshold := 16 } }
    (∀ reply ∈ replies, reply.success?.isSome = true) ∧
      ∃ total : OkReply, (Response.totals total).Reaches session
          (run (step session) (awaiting "" 2 {} []) replies.reverse).2 ∧
        total.affectedRows.toNat = 7 ∧ total.insertId = 9 ∧ total.message = "first" := by
  intro replies session
  have sound : ∀ reply ∈ replies, reply.success?.isSome = true := by decide +kernel
  have rows : affectedTotal (successes replies) = 7 := by decide +kernel
  have ids : (successes replies).map OkReply.insertId = [0, 9] := by decide +kernel
  have lastly : (replies.reverse.getLast?.bind Event.success?).map OkReply.message = some "first" := by
    decide +kernel
  have reordered : replies.reverse.Perm replies := List.reverse_perm replies
  obtain ⟨response, reaches, -, totals⟩ := totals_in_any_order session "" {} []
    (List.cons_ne_nil _ _) (by decide) (by rw [rows]; decide) reordered
  obtain ⟨last, total, isLast, rfl, affected, insertId, -, -, message⟩ := totals sound
  refine ⟨sound, total, reaches, affected.trans rows, ?_, ?_⟩
  · rw [ids] at insertId
    have some := (insertId.least 9 (by decide) (by decide)).1
    have isId := insertId.among.resolve_left some
    simp only [List.mem_cons, List.not_mem_nil, or_false] at isId
    exact isId.resolve_left some
  · rw [isLast] at lastly
    exact message.trans (Option.some.inj lastly)

end Coordinator

end ScatterGather
