import Mathlib.Data.List.Range
import Mathlib.Data.List.Nodup
import Mathlib.Tactic

set_option relaxedAutoImplicit false
set_option autoImplicit false

/-!
# A durable queue with settlements

A broker keeps a message until its consumer has settled it. What was delivered on a channel and not
settled waits again when the channel is lost, so a message may be delivered more than once, but none
is lost.

## Main definitions

* `BrokerQueue` — the messages of a queue, by their numbers.
* `BrokerQueue.Settles` — what an attempt to settle a message may do.

## Main results

* `BrokerQueue.Conserves` — every message waits, is unsettled, or is settled, and only one of these.
-/

/-- A queue: how many messages were published, which of them wait, which were delivered and are not
settled, and how the others were settled. -/
structure BrokerQueue (δ : Type) where
  published : ℕ := 0
  waiting : List ℕ := []
  unsettled : List ℕ := []
  settled : List (ℕ × δ) := []

namespace BrokerQueue

variable {δ : Type} (q : BrokerQueue δ)

/-- A new message waits behind the others. -/
def publish : BrokerQueue δ :=
  { q with published := q.published + 1, waiting := q.waiting ++ [q.published] }

/-- A message is delivered on the channel, and the others wait. -/
def deliver (n : ℕ) (rest : List ℕ) : BrokerQueue δ :=
  { q with waiting := rest, unsettled := q.unsettled ++ [n] }

/-- The channel is lost, and all that is not settled waits in some order. -/
def requeue (order : List ℕ) : BrokerQueue δ :=
  { q with waiting := order, unsettled := [] }

/-- A message is settled. -/
def settle (n : ℕ) (d : δ) : BrokerQueue δ :=
  { q with unsettled := q.unsettled.erase n, settled := q.settled ++ [(n, d)] }

/-- What an attempt to settle a message does: it is lost with the channel, or it settles a message
that was delivered on the channel. -/
inductive Settles (n : ℕ) (d : δ) : BrokerQueue δ → Prop
  | lost : Settles n d q
  | processed (h : n ∈ q.unsettled) : Settles n d (q.settle n d)

/-- **Conservation.** Every published message is in one place. -/
def Conserves : Prop :=
  (q.waiting ++ (q.unsettled ++ q.settled.map Prod.fst)).Perm (List.range q.published)

variable {q} {n : ℕ} {d : δ}

namespace Conserves

/-- Publication conserves the messages. -/
lemma publish (h : q.Conserves) : q.publish.Conserves := by
  unfold Conserves BrokerQueue.publish
  rw [List.range_succ, List.append_assoc]
  refine (List.Perm.append_left _ List.perm_append_comm).trans ?_
  rw [← List.append_assoc]
  exact h.append_right _

/-- Delivery conserves them. -/
lemma deliver {rest : List ℕ} (h : q.Conserves) (hwaiting : q.waiting = n :: rest) :
    (q.deliver n rest).Conserves := by
  unfold Conserves at h
  rw [hwaiting, List.cons_append] at h
  refine List.Perm.trans ?_ h
  rw [BrokerQueue.deliver, List.append_assoc, List.singleton_append]
  exact (List.perm_middle.append_left rest).trans List.perm_middle

/-- So does the loss of the channel. -/
lemma requeue {order : List ℕ} (h : q.Conserves) (horder : order.Perm (q.unsettled ++ q.waiting)) :
    (q.requeue order).Conserves := by
  refine List.Perm.trans ?_ h
  rw [BrokerQueue.requeue, List.nil_append, ← List.append_assoc]
  exact (horder.trans List.perm_append_comm).append_right _

/-- So does a settlement. -/
lemma settle (h : q.Conserves) (hn : n ∈ q.unsettled) : (q.settle n d).Conserves := by
  refine List.Perm.trans (List.Perm.append_left _ ?_) h
  rw [BrokerQueue.settle, List.map_append, List.map_singleton, ← List.append_assoc]
  refine List.perm_append_comm.trans ?_
  rw [List.singleton_append, ← List.cons_append]
  exact (List.perm_cons_erase hn).symm.append_right _

/-- So does every attempt to settle, whether it is lost or not. -/
lemma settles {q' : BrokerQueue δ} (h : q.Conserves) (hsettles : q.Settles n d q') :
    q'.Conserves := by
  cases hsettles with
  | lost => exact h
  | processed hn => exact h.settle hn

/-- When nothing waits and nothing is unsettled, everything is settled. -/
lemma exists_settled (h : q.Conserves) (hwaiting : q.waiting = []) (hunsettled : q.unsettled = [])
    (hn : n < q.published) : ∃ d, (n, d) ∈ q.settled := by
  have hmem := h.mem_iff.mpr (List.mem_range.mpr hn)
  rw [hwaiting, hunsettled, List.nil_append, List.nil_append] at hmem
  obtain ⟨⟨m, d⟩, hm, rfl⟩ := List.mem_map.mp hmem
  exact ⟨d, hm⟩

end Conserves

end BrokerQueue
