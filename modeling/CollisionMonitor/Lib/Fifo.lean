import Mathlib.Data.List.Basic

set_option relaxedAutoImplicit false
set_option autoImplicit false

/-!
# What stands ahead in a queue

A first-in first-out queue is popped at its head and pushed at its end, so what does not stand
ahead of an entry now never will.

## Main definitions

* `Fifo.Ahead` — an entry waits, and nothing of a kind stands ahead of it.

## Main results

* `Fifo.Ahead.push`, `Fifo.Ahead.pop` — pushing and popping keep it so.
-/

namespace Fifo

variable {α : Type} {P : α → Prop} {a b : α} {l : List α}

/-- The entry `a` waits in the queue, and no entry with property `P` stands ahead of it. -/
def Ahead (P : α → Prop) (a : α) (l : List α) : Prop :=
  ∃ before after, l = before ++ a :: after ∧ ∀ b ∈ before, ¬ P b

/-- In a list without such elements nothing stands ahead. -/
lemma ahead_of_mem (ha : a ∈ l) (hl : ∀ b ∈ l, ¬ P b) : Ahead P a l := by
  obtain ⟨before, after, rfl⟩ := List.append_of_mem ha
  exact ⟨before, after, rfl, fun b hb => hl b (List.mem_append_left _ hb)⟩

namespace Ahead

/-- What is put behind does not matter. -/
lemma push (h : Ahead P a l) (new : List α) : Ahead P a (l ++ new) := by
  obtain ⟨before, after, rfl, hbefore⟩ := h
  exact ⟨before, after ++ new, by rw [List.append_assoc, List.cons_append], hbefore⟩

/-- The head of the queue is the entry itself, or nothing that must not stand ahead of it. -/
lemma pop (h : Ahead P a (b :: l)) : b = a ∨ ¬ P b ∧ Ahead P a l := by
  obtain ⟨before, after, hl, hbefore⟩ := h
  cases before with
  | nil => exact .inl (List.cons.inj hl).1
  | cons c before =>
    obtain ⟨rfl, rfl⟩ := List.cons.inj hl
    exact .inr ⟨hbefore b List.mem_cons_self, before, after, rfl,
      fun b hb => hbefore b (List.mem_cons_of_mem _ hb)⟩

end Ahead

end Fifo
