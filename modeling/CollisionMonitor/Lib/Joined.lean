import Mathlib.Tactic

set_option relaxedAutoImplicit false
set_option autoImplicit false

/-!
# Fields joined by a separator

When two pairs of fields that are joined by a separator give the same text: when they are equal, or
when a separator inside a field moved from one side to the other.

## Main definitions

* `Joined.Shifted` — a separator inside a field moved.

## Main results

* `Joined.join_eq_iff` — all ways in which two joined pairs of fields are equal.
* `Joined.join_last_inj`, `Joined.join_first_inj` — a field without the separator is determined.
-/

namespace Joined

variable {α : Type} {sep : α}

/-- The separator moved: the second pair has the text `sep :: moved` at the end of its first field,
which the first pair has at the front of its second field. -/
def Shifted (sep : α) (left right left' right' : List α) : Prop :=
  ∃ moved, left' = left ++ sep :: moved ∧ right = moved ++ sep :: right'

/-- **When two joined pairs are equal**: the fields are, or a separator moved. -/
theorem join_eq_iff {left right left' right' : List α} :
    left ++ sep :: right = left' ++ sep :: right' ↔ left = left' ∧ right = right' ∨
      Shifted sep left right left' right' ∨ Shifted sep left' right' left right := by
  constructor
  · intro h
    rcases List.append_eq_append_iff.mp h with ⟨t, hleft, hright⟩ | ⟨t, hleft, hright⟩
    · cases t with
      | nil => exact .inl ⟨by simpa using hleft.symm, by simpa using hright⟩
      | cons c t =>
        obtain ⟨rfl, htail⟩ := List.cons.inj hright
        exact .inr (.inl ⟨t, hleft, htail⟩)
    · cases t with
      | nil => exact .inl ⟨by simpa using hleft, by simpa using hright.symm⟩
      | cons c t =>
        obtain ⟨rfl, htail⟩ := List.cons.inj hright
        exact .inr (.inr ⟨t, hleft, htail⟩)
  · rintro (⟨rfl, rfl⟩ | ⟨moved, rfl, rfl⟩ | ⟨moved, rfl, rfl⟩)
    · rfl
    · simp
    · simp

/-- A moved separator is in both fields that it moved between. -/
lemma Shifted.mem {left right left' right' : List α} (h : Shifted sep left right left' right') :
    sep ∈ left' ∧ sep ∈ right := by
  obtain ⟨moved, rfl, rfl⟩ := h
  simp

/-- Parts between which the separator moved differ. -/
lemma Shifted.ne {left right left' right' : List α} (h : Shifted sep left right left' right') :
    left ≠ left' := by
  rintro rfl
  obtain ⟨moved, hleft, -⟩ := h
  simp at hleft

/-- **The last field is determined** when it does not contain the separator. -/
lemma join_last_inj {left last left' last' : List α} (hlast : sep ∉ last) (hlast' : sep ∉ last')
    (h : left ++ sep :: last = left' ++ sep :: last') : left = left' ∧ last = last' := by
  rcases join_eq_iff.mp h with heq | hshift | hshift
  · exact heq
  · exact absurd hshift.mem.2 hlast
  · exact absurd hshift.mem.2 hlast'

/-- **The first field is determined** when it does not contain the separator. -/
lemma join_first_inj {first right first' right' : List α} (hfirst : sep ∉ first)
    (hfirst' : sep ∉ first') (h : first ++ sep :: right = first' ++ sep :: right') :
    first = first' ∧ right = right' := by
  rcases join_eq_iff.mp h with heq | hshift | hshift
  · exact heq
  · exact absurd hshift.mem.1 hfirst'
  · exact absurd hshift.mem.1 hfirst

end Joined
