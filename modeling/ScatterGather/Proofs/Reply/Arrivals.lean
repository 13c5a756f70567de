/-
**Replies of several shards, as they come in.**

Every shard sends in its own order, and what all of them send comes in as one list. An arrival keeps the
shard it comes from, so that the streams can be read back from it:

* `sentBy`, `Interleaves`: what came in from one shard; arrivals that are **nothing but the given streams**,
  each in its own order;
* `countP_arrivals`, `Interleaves.countP` — the arrivals of a kind are counted shard by shard;
* `Interleaves.head`, `Interleaves.last` — the first and the last arrival are the **first and the last of
  their own stream**.
-/
import Mathlib.Algebra.BigOperators.Fin
import ScatterGather.Proofs.Reply.Run

namespace ScatterGather

/-! ### Streams and arrivals -/

section Arrivals

variable {shards : Nat} {α : Type}

/-- What came in from a shard. -/
def sentBy (shard : Fin shards) (arrivals : List (Fin shards × α)) : List α :=
  (arrivals.filter fun arrival => arrival.1 = shard).map Prod.snd

/-- Arrivals that are the streams of the shards, each in its own order. -/
def Interleaves (streams : Fin shards → List α) (arrivals : List (Fin shards × α)) : Prop :=
  ∀ shard, sentBy shard arrivals = streams shard

instance [DecidableEq α] (streams : Fin shards → List α) (arrivals : List (Fin shards × α)) :
    Decidable (Interleaves streams arrivals) :=
  inferInstanceAs (Decidable (∀ shard, sentBy shard arrivals = streams shard))

theorem sentBy_cons (shard : Fin shards) (arrival : Fin shards × α)
    (rest : List (Fin shards × α)) :
    sentBy shard (arrival :: rest) =
      (if arrival.1 = shard then [arrival.2] else []) ++ sentBy shard rest := by
  unfold sentBy
  rw [List.filter_cons]
  by_cases own : arrival.1 = shard
  · rw [if_pos (decide_eq_true own), if_pos own]
    rfl
  · rw [if_neg (by rwa [decide_eq_true_iff]), if_neg own]
    rfl

theorem sentBy_concat (shard : Fin shards) (before : List (Fin shards × α))
    (arrival : Fin shards × α) :
    sentBy shard (before ++ [arrival]) =
      sentBy shard before ++ if arrival.1 = shard then [arrival.2] else [] := by
  have last := sentBy_cons shard arrival []
  rw [show sentBy shard [] = ([] : List α) from rfl, List.append_nil] at last
  rw [← last]
  unfold sentBy
  rw [List.filter_append, List.map_append]

theorem mem_sentBy {arrival : Fin shards × α} {arrivals : List (Fin shards × α)}
    (member : arrival ∈ arrivals) : arrival.2 ∈ sentBy arrival.1 arrivals :=
  List.mem_map_of_mem (List.mem_filter.mpr ⟨member, decide_eq_true rfl⟩)

/-- **Arrivals are counted shard by shard.** -/
theorem countP_arrivals (kind : α → Bool) (arrivals : List (Fin shards × α)) :
    (arrivals.map Prod.snd).countP kind = ∑ shard, (sentBy shard arrivals).countP kind := by
  induction arrivals with
  | nil => exact (Finset.sum_eq_zero fun _ _ => rfl).symm
  | cons arrival rest ih =>
    have here : ∀ shard, List.countP kind (if arrival.1 = shard then [arrival.2] else []) =
        if arrival.1 = shard then List.countP kind [arrival.2] else 0 := fun shard => by
      by_cases own : arrival.1 = shard
      · rw [if_pos own, if_pos own]
      · rw [if_neg own, if_neg own]
        rfl
    simp only [sentBy_cons, List.countP_append, here, Finset.sum_add_distrib, ← ih]
    rw [Finset.sum_ite_eq, if_pos (Finset.mem_univ _), ← List.countP_append, List.singleton_append,
      List.map_cons]

namespace Interleaves

variable {streams : Fin shards → List α} {arrivals : List (Fin shards × α)}

/-- What is counted once in every stream comes in once from every shard. -/
theorem countP (interleaved : Interleaves streams arrivals) {kind : α → Bool}
    (once : ∀ shard, (streams shard).countP kind = 1) :
    (arrivals.map Prod.snd).countP kind = shards := by
  rw [countP_arrivals]
  calc ∑ shard, (sentBy shard arrivals).countP kind
      = ∑ _shard : Fin shards, 1 :=
        Finset.sum_congr rfl fun shard _ => by rw [interleaved shard, once shard]
    _ = shards := by rw [Finset.sum_const, Finset.card_univ, Fintype.card_fin, smul_eq_mul, mul_one]

theorem mem (interleaved : Interleaves streams arrivals) {sent : α}
    (member : sent ∈ arrivals.map Prod.snd) : ∃ shard, sent ∈ streams shard := by
  obtain ⟨arrival, inside, rfl⟩ := List.mem_map.mp member
  exact ⟨arrival.1, interleaved arrival.1 ▸ mem_sentBy inside⟩

theorem mem_of_stream (interleaved : Interleaves streams arrivals) {shard : Fin shards} {sent : α}
    (member : sent ∈ streams shard) : sent ∈ arrivals.map Prod.snd := by
  rw [← interleaved shard] at member
  obtain ⟨arrival, inside, rfl⟩ := List.mem_map.mp member
  exact List.mem_map_of_mem (List.mem_filter.mp inside).1

/-- **The first arrival** is the first of its stream. -/
theorem head {arrival : Fin shards × α} {rest : List (Fin shards × α)}
    (interleaved : Interleaves streams (arrival :: rest)) :
    (streams arrival.1).head? = some arrival.2 := by
  rw [← interleaved arrival.1, sentBy_cons, if_pos rfl]
  rfl

/-- **The last arrival** is the last of its stream. -/
theorem last {arrival : Fin shards × α} {before : List (Fin shards × α)}
    (interleaved : Interleaves streams (before ++ [arrival])) :
    (streams arrival.1).getLast? = some arrival.2 := by
  rw [← interleaved arrival.1, sentBy_concat, if_pos rfl, List.getLast?_concat]

/-- What comes in from a single shard is its stream. -/
theorem alone (interleaved : Interleaves streams arrivals) (single : shards = 1) :
    ∃ shard, arrivals.map Prod.snd = streams shard := by
  subst single
  refine ⟨0, ?_⟩
  rw [← interleaved 0, sentBy, List.filter_eq_self.mpr]
  exact fun arrival _ => decide_eq_true (Subsingleton.elim _ _)

/-- Streams of which one has something in it do come in. -/
theorem ne_nil (interleaved : Interleaves streams arrivals) (shard : Fin shards)
    (some : streams shard ≠ []) : arrivals ≠ [] := by
  rintro rfl
  exact some (interleaved shard).symm

end Interleaves

end Arrivals

end ScatterGather
