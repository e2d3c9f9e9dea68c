import Mathlib.Algebra.BigOperators.Group.Finset.Basic
import Mathlib.Algebra.Order.BigOperators.Group.Finset
import Mathlib.Data.Prod.Lex
import Mathlib.Tactic

set_option relaxedAutoImplicit false
set_option autoImplicit false

/-!
# Integer weights that encode a lexicographic order

A weight `g i * U + h i` orders the subsets of a finite set by the total of `g` first and the
total of `h` second, as soon as `U` exceeds the total of `h` over the whole set.

## Main results

* `LexWeights.mul_add_lt_iff` — the two-digit comparison.
* `LexWeights.sum_lt_iff` — the comparison of two subsets.
-/

namespace LexWeights

/-- Two-digit numbers with base `U` compare digit by digit. -/
lemma mul_add_lt_iff {U a b r s : ℤ} (hr : 0 ≤ r) (hrU : r < U) (hs : 0 ≤ s) (hsU : s < U) :
    a * U + r < b * U + s ↔ toLex (a, r) < toLex (b, s) := by
  rw [Prod.Lex.toLex_lt_toLex]
  rcases lt_trichotomy a b with hab | rfl | hab
  · have : (a + 1) * U ≤ b * U := mul_le_mul_of_nonneg_right hab (by omega)
    simp only [hab, true_or, iff_true]
    linarith
  · simp
  · have : (b + 1) * U ≤ a * U := mul_le_mul_of_nonneg_right hab (by omega)
    simp only [hab.not_gt, hab.ne', false_and, or_false, iff_false, not_lt]
    linarith

section Sum

variable {ι : Type} {C A B : Finset ι} {f g h : ι → ℤ} {U : ℤ}

/-- The total of non-negative weights over a subset is between `0` and the whole total. -/
lemma sum_bounds (hpos : ∀ i ∈ C, 0 ≤ h i) (hA : A ⊆ C) :
    0 ≤ ∑ i ∈ A, h i ∧ ∑ i ∈ A, h i ≤ ∑ i ∈ C, h i :=
  ⟨Finset.sum_nonneg fun i hi => hpos i (hA hi),
    Finset.sum_le_sum_of_subset_of_nonneg hA fun i hi _ => hpos i hi⟩

/-- The total of two-digit weights is a two-digit number. -/
lemma sum_eq (hf : ∀ i ∈ C, f i = g i * U + h i) (hA : A ⊆ C) :
    ∑ i ∈ A, f i = (∑ i ∈ A, g i) * U + ∑ i ∈ A, h i := by
  rw [Finset.sum_mul, ← Finset.sum_add_distrib]
  exact Finset.sum_congr rfl fun i hi => hf i (hA hi)

/-- **Two-digit weights compare subsets lexicographically.** -/
theorem sum_lt_iff (hf : ∀ i ∈ C, f i = g i * U + h i) (hpos : ∀ i ∈ C, 0 ≤ h i)
    (hU : ∑ i ∈ C, h i < U) (hA : A ⊆ C) (hB : B ⊆ C) :
    ∑ i ∈ B, f i < ∑ i ∈ A, f i ↔
      toLex (∑ i ∈ B, g i, ∑ i ∈ B, h i) < toLex (∑ i ∈ A, g i, ∑ i ∈ A, h i) := by
  obtain ⟨hA0, hA1⟩ := sum_bounds hpos hA
  obtain ⟨hB0, hB1⟩ := sum_bounds hpos hB
  rw [sum_eq hf hA, sum_eq hf hB]
  exact mul_add_lt_iff hB0 (hB1.trans_lt hU) hA0 (hA1.trans_lt hU)

end Sum

end LexWeights
