import Mathlib.Order.Basic
import Mathlib.Tactic

set_option relaxedAutoImplicit false
set_option autoImplicit false

/-!
# The last of the greatest elements

Among the elements of a list whose key is greatest, the one that comes last: what is left in a
register that every element overwrites unless its key is smaller.

## Main definitions

* `LastMax` — the last element of greatest key.

## Main results

* `lastMax_append_singleton` — the effect of one more element.
* `exists_lastMax` — a list with elements has one.
-/

variable {α κ : Type} [LinearOrder κ] {key : α → κ} {l : List α} {a b : α}

/-- `a` has the greatest key of the list, and every later element has a smaller one. -/
def LastMax (key : α → κ) (l : List α) (a : α) : Prop :=
  ∃ before after, l = before ++ a :: after ∧ (∀ b ∈ before, key b ≤ key a) ∧
    ∀ b ∈ after, key b < key a

namespace LastMax

/-- The last maximum is a member. -/
lemma mem (h : LastMax key l a) : a ∈ l := by
  obtain ⟨before, after, rfl, -, -⟩ := h
  simp

/-- No member has a larger key. -/
lemma le (h : LastMax key l a) : ∀ b ∈ l, key b ≤ key a := by
  obtain ⟨before, after, rfl, hbefore, hafter⟩ := h
  intro b hb
  rcases List.mem_append.mp hb with hb | hb
  · exact hbefore b hb
  · rcases List.mem_cons.mp hb with rfl | hb
    · exact le_rfl
    · exact (hafter b hb).le

/-- An element that is not smaller than any other becomes the last greatest one. -/
lemma append_of_le (h : ∀ c ∈ l, key c ≤ key b) : LastMax key (l ++ [b]) b :=
  ⟨l, [], rfl, h, by simp⟩

/-- A smaller element leaves the last greatest one in place. -/
lemma append_of_lt (h : LastMax key l a) (hb : key b < key a) : LastMax key (l ++ [b]) a := by
  obtain ⟨before, after, rfl, hbefore, hafter⟩ := h
  refine ⟨before, after ++ [b], by simp, hbefore, fun c hc => ?_⟩
  rcases List.mem_append.mp hc with hc | hc
  · exact hafter c hc
  · rw [List.mem_singleton.mp hc]
    exact hb

end LastMax

/-- **One more element** either becomes the last greatest one or leaves it in place. -/
theorem lastMax_append_singleton : LastMax key (l ++ [b]) a ↔
    ((∀ c ∈ l, key c ≤ key b) ∧ a = b) ∨ (key b < key a ∧ LastMax key l a) := by
  constructor
  · rintro ⟨before, after, heq, hbefore, hafter⟩
    rcases List.eq_nil_or_concat after with rfl | ⟨after, c, rfl⟩
    · obtain ⟨rfl, hlast⟩ := List.append_inj' heq rfl
      obtain rfl := List.singleton_inj.mp hlast
      exact .inl ⟨hbefore, rfl⟩
    · rw [List.concat_eq_append, ← List.cons_append, ← List.append_assoc] at heq
      obtain ⟨rfl, hlast⟩ := List.append_inj' heq rfl
      obtain rfl := List.singleton_inj.mp hlast
      refine .inr ⟨hafter b (by simp), before, after, rfl, hbefore, fun c hc => ?_⟩
      exact hafter c (by simp [hc])
  · rintro (⟨hle, rfl⟩ | ⟨hlt, h⟩)
    · exact .append_of_le hle
    · exact h.append_of_lt hlt

/-- A list with elements has a last greatest one. -/
theorem exists_lastMax (h : l ≠ []) : ∃ a, LastMax key l a := by
  induction l using List.reverseRecOn with
  | nil => exact absurd rfl h
  | append_singleton l b ih =>
    rcases eq_or_ne l [] with rfl | hl
    · exact ⟨b, .append_of_le (by simp)⟩
    · obtain ⟨a, ha⟩ := ih hl
      rcases le_or_gt (key a) (key b) with hab | hba
      · exact ⟨b, .append_of_le fun c hc => (ha.le c hc).trans hab⟩
      · exact ⟨a, ha.append_of_lt hba⟩
