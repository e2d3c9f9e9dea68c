import Mathlib

set_option relaxedAutoImplicit false
set_option autoImplicit false

/-!
# Convex sets of the plane

Ways to show that a point of the complex plane is in a convex set: between translates of a point,
in a box whose corners are in the set, and in a circular sector whose circumscribed fan is.

## Main definitions

* `PlaneConvex.frame` — the affine map that turns and moves the plane.
* `PlaneConvex.direction` — the unit vector at an angle.

## Main results

* `PlaneConvex.translate_mem` — what is in the set at both ends of a translation stays in it.
* `PlaneConvex.box_subset` — a box is in the set if its corners are.
* `PlaneConvex.chord_mem`, `PlaneConvex.sector_mem` — a sector is in the set if the vertices of a
  fan are whose chords stay outside of the arc.
* `PlaneConvex.offset_mem` — a corner of an offset of a box is in the set if a fan at the corner and
  the ends of the fans at the other corners are.
-/

namespace PlaneConvex

open Complex Set

/-! ## Translations and scalings -/

section Module

variable {E : Type} [AddCommGroup E] [Module ℝ E] {C : Set E} (hC : Convex ℝ C)
include hC

/-- **Translation.** Between two translates of a point in the set all are. -/
lemma translate_mem {p q s : E} (hp : p + s ∈ C) (hq : q + s ∈ C) {t : ℝ} (ht : t ∈ Icc (0 : ℝ) 1) :
    ((1 - t) • p + t • q) + s ∈ C := by
  have hmem := hC hp hq (sub_nonneg.mpr ht.2) ht.1 (sub_add_cancel 1 t)
  have hsplit : (1 - t) • (p + s) + t • (q + s) = (1 - t) • p + t • q + s := by
    module
  rwa [hsplit] at hmem

/-- A combination of two points with total weight at most one, in a set that has the origin. -/
lemma combination_mem (h0 : (0 : E) ∈ C) {v w : E} (hv : v ∈ C) (hw : w ∈ C) {a b : ℝ} (ha : 0 ≤ a)
    (hb : 0 ≤ b) (hab : a + b ≤ 1) : a • v + b • w ∈ C := by
  rcases (add_nonneg ha hb).eq_or_lt with hzero | hpos
  · obtain ⟨rfl, rfl⟩ := (add_eq_zero_iff_of_nonneg ha hb).mp hzero.symm
    simpa using h0
  · have hmem := hC hv hw (div_nonneg ha hpos.le) (div_nonneg hb hpos.le)
      (by rw [← add_div, div_self hpos.ne'])
    have hscaled := hC.smul_mem_of_zero_mem h0 hmem ⟨hpos.le, hab⟩
    rwa [smul_add, smul_smul, smul_smul, mul_div_cancel₀ _ hpos.ne',
      mul_div_cancel₀ _ hpos.ne'] at hscaled

end Module

/-- The affine map of the plane that multiplies by a factor and moves the origin to a point. -/
noncomputable def frame (factor origin : ℂ) : ℂ →ᵃ[ℝ] ℂ :=
  (LinearMap.mulLeft ℝ factor).toAffineMap + AffineMap.const ℝ ℂ origin

/-- A frame rotates, scales and moves. -/
@[simp] lemma frame_apply (factor origin z : ℂ) : frame factor origin z = factor * z + origin := rfl

section Plane

variable {C : Set ℂ} (hC : Convex ℝ C)

/-! ## Boxes -/

/-- A box is the hull of its corners. -/
lemma box_eq_convexHull {a b c d : ℝ} (hab : a ≤ b) (hcd : c ≤ d) :
    Icc a b ×ℂ Icc c d = convexHull ℝ ({a, b} ×ℂ {c, d}) := by
  rw [convexHull_reProdIm, convexHull_pair, convexHull_pair, segment_eq_Icc hab,
    segment_eq_Icc hcd]

include hC in
/-- **Boxes.** A box is in a convex set if its corners are. -/
lemma box_subset {a b c d : ℝ} (hab : a ≤ b) (hcd : c ≤ d) (hac : (⟨a, c⟩ : ℂ) ∈ C)
    (had : (⟨a, d⟩ : ℂ) ∈ C) (hbc : (⟨b, c⟩ : ℂ) ∈ C) (hbd : (⟨b, d⟩ : ℂ) ∈ C) :
    Icc a b ×ℂ Icc c d ⊆ C := by
  rw [box_eq_convexHull hab hcd]
  refine convexHull_min ?_ hC
  rintro ⟨x, y⟩ ⟨hx, hy⟩
  obtain rfl | rfl : x = a ∨ x = b := hx
  all_goals obtain rfl | rfl : y = c ∨ y = d := hy
  all_goals assumption

/-! ## Sectors -/

/-- The unit vector at an angle. -/
noncomputable def direction (angle : ℝ) : ℂ := exp (angle * I)

/-- The real part of a direction. -/
@[simp] lemma direction_re (angle : ℝ) : (direction angle).re = Real.cos angle :=
  exp_ofReal_mul_I_re angle

/-- Its imaginary part. -/
@[simp] lemma direction_im (angle : ℝ) : (direction angle).im = Real.sin angle :=
  exp_ofReal_mul_I_im angle

/-- A direction is a unit vector. -/
@[simp] lemma norm_direction (angle : ℝ) : ‖direction angle‖ = 1 := norm_exp_ofReal_mul_I angle

/-- The direction of the angle zero. -/
@[simp] lemma direction_zero : direction 0 = 1 := by simp [direction]

/-- The last vertex of a fan over a right angle. -/
lemma direction_quarter {n : ℕ} (hn : 0 < n) : direction (n * (Real.pi / 2 / n)) = I := by
  rw [mul_div_cancel₀ _ (Nat.cast_ne_zero.mpr hn.ne')]
  apply Complex.ext <;> simp

include hC in
/-- **One chord.** The chord between two points at distance `r` stays at least `r * cos δ` from the
centre, so it and the centre span every shorter vector between them.

**Proof sketch.** Such a vector is a combination of the two ends of the chord whose weights are the
sines of the angles to the other end, up to a common factor. Their sum is at most one, because the
vector is not longer than the distance of the chord from the centre. -/
lemma chord_mem (h0 : (0 : ℂ) ∈ C) {middle δ γ r ρ : ℝ} (hδ : 0 < δ) (hδ' : δ < Real.pi / 2)
    (hγ : |γ| ≤ δ) (hρ : 0 ≤ ρ) (hr : ρ ≤ r * Real.cos δ)
    (hleft : r • direction (middle - δ) ∈ C) (hright : r • direction (middle + δ) ∈ C) :
    ρ • direction (middle + γ) ∈ C := by
  obtain ⟨hγ₀, hγ₁⟩ := abs_le.mp hγ
  have hcos : 0 < Real.cos δ := Real.cos_pos_of_mem_Ioo ⟨by linarith, hδ'⟩
  have hsin : 0 < Real.sin δ := Real.sin_pos_of_pos_of_lt_pi hδ (by linarith)
  have hr₀ : 0 ≤ r := by
    by_contra hneg
    exact absurd (hρ.trans hr) (not_le.mpr (mul_neg_of_neg_of_pos (not_le.mp hneg) hcos))
  rcases hr₀.eq_or_lt with rfl | hpos
  · obtain rfl : ρ = 0 := le_antisymm (by simpa using hr) hρ
    simpa using h0
  -- the weights of the two ends
  set s : ℝ := ρ / (r * (2 * Real.sin δ * Real.cos δ)) with hs
  have hs₀ : 0 ≤ s := by positivity
  have hleft₀ : 0 ≤ s * Real.sin (δ - γ) :=
    mul_nonneg hs₀ (Real.sin_nonneg_of_nonneg_of_le_pi (by linarith) (by linarith))
  have hright₀ : 0 ≤ s * Real.sin (δ + γ) :=
    mul_nonneg hs₀ (Real.sin_nonneg_of_nonneg_of_le_pi (by linarith) (by linarith))
  have htotal : s * Real.sin (δ - γ) + s * Real.sin (δ + γ) ≤ 1 := by
    have hsum : s * Real.sin (δ - γ) + s * Real.sin (δ + γ) =
        ρ * Real.cos γ / (r * Real.cos δ) := by
      rw [hs, Real.sin_sub, Real.sin_add]
      field_simp
      ring
    rw [hsum, div_le_one (mul_pos hpos hcos)]
    exact (mul_le_of_le_one_right hρ (Real.cos_le_one γ)).trans hr
  have hmem := combination_mem hC h0 hleft hright hleft₀ hright₀ htotal
  have heq : ρ • direction (middle + γ) = (s * Real.sin (δ - γ)) • r • direction (middle - δ) +
      (s * Real.sin (δ + γ)) • r • direction (middle + δ) := by
    have hscale : s * r * (2 * Real.sin δ * Real.cos δ) = ρ := by
      rw [hs]
      field_simp
    apply Complex.ext
    · simp only [real_smul, add_re, re_ofReal_mul, direction_re]
      rw [Real.sin_sub, Real.sin_add, Real.cos_sub middle δ, Real.cos_add middle δ, Real.cos_add]
      linear_combination (-(Real.cos middle * Real.cos γ - Real.sin middle * Real.sin γ)) * hscale
    · simp only [real_smul, add_im, im_ofReal_mul, direction_im]
      rw [Real.sin_sub δ γ, Real.sin_add δ γ, Real.sin_sub middle δ, Real.sin_add middle δ,
        Real.sin_add]
      linear_combination (-(Real.sin middle * Real.cos γ + Real.cos middle * Real.sin γ)) * hscale
  rwa [heq]

include hC in
/-- **Sectors.** A sector is in a convex set if the vertices of a fan are whose chords stay outside
of its arc.

**Proof sketch.** By induction on the number of chords: the angle is in the last of them, or in the
fan without it. -/
lemma sector_mem (h0 : (0 : ℂ) ∈ C) {start δ r ρ : ℝ} (hδ : 0 < δ) (hδ' : δ < Real.pi / 2)
    (hρ : 0 ≤ ρ) (hr : ρ ≤ r * Real.cos δ) {n : ℕ} (hn : 0 < n)
    (hfan : ∀ j ≤ n, r • direction (start + j * (2 * δ)) ∈ C) {α : ℝ} (hα : start ≤ α)
    (hα' : α ≤ start + n * (2 * δ)) : ρ • direction α ∈ C := by
  -- the last chord of the fan, or an earlier one
  have hchord : ∀ j : ℕ, j + 1 ≤ n → start + j * (2 * δ) ≤ α →
      α ≤ start + (j + 1 : ℕ) * (2 * δ) → ρ • direction α ∈ C := by
    intro j hj hlower hupper
    push_cast at hupper
    have hleft : r • direction (start + j * (2 * δ) + δ - δ) ∈ C := by
      rw [add_sub_cancel_right]
      exact hfan j (by omega)
    have hright : r • direction (start + j * (2 * δ) + δ + δ) ∈ C := by
      have hnext := hfan (j + 1) hj
      rwa [show start + ((j + 1 : ℕ) : ℝ) * (2 * δ) = start + j * (2 * δ) + δ + δ by
        push_cast
        ring] at hnext
    have hγ : |α - (start + j * (2 * δ) + δ)| ≤ δ := abs_le.mpr ⟨by linarith, by linarith⟩
    have hmem := chord_mem hC h0 hδ hδ' hγ hρ hr hleft hright
    rwa [add_sub_cancel] at hmem
  obtain ⟨m, rfl⟩ := Nat.exists_eq_succ_of_ne_zero hn.ne'
  clear hn hfan
  induction m with
  | zero => exact hchord 0 le_rfl (by simpa using hα) hα'
  | succ m ih =>
    rcases le_total α (start + (m + 1 : ℕ) * (2 * δ)) with hle | hge
    · exact ih hle fun j hj => hchord j (by omega)
    · exact hchord (m + 1) le_rfl hge hα'

/-! ## Offsets of a box -/

/-- A vector of the first quadrant is in a sector of it. -/
lemma exists_direction {w : ℂ} (hre : 0 ≤ w.re) (him : 0 ≤ w.im) :
    ∃ α : ℝ, 0 ≤ α ∧ α ≤ Real.pi / 2 ∧ ‖w‖ • direction α = w := by
  have hnonneg : 0 ≤ arg w := arg_nonneg_iff.mpr him
  have hquarter : |arg w| ≤ Real.pi / 2 := abs_arg_le_pi_div_two_iff.mpr hre
  refine ⟨arg w, hnonneg, (abs_le.mp hquarter).2, ?_⟩
  rw [real_smul]
  exact norm_mul_exp_arg_mul_I w

/-- The half-angle of a fan of chords over a right angle. -/
lemma half_angle_mem {n : ℕ} (hn : 0 < n) : Real.pi / (4 * n) ∈ Ioo 0 (Real.pi / 2) := by
  have hone : (1 : ℝ) ≤ n := Nat.one_le_cast.mpr hn
  exact ⟨div_pos Real.pi_pos (by linarith),
    div_lt_div_of_pos_left Real.pi_pos two_pos (by linarith)⟩

/-- Half an angle of the arc has a positive cosine. -/
lemma cos_half_angle_pos {n : ℕ} (hn : 0 < n) : 0 < Real.cos (Real.pi / (4 * n)) := by
  have hmem := half_angle_mem hn
  exact Real.cos_pos_of_mem_Ioo ⟨(neg_neg_of_pos (half_pos Real.pi_pos)).trans hmem.1, hmem.2⟩

include hC in
/-- **One corner of an offset.** A convex set has the quarter of an offset of a box at the box's
upper right corner, here the origin, if it has the vertices of a fan there and the ends of the fans
at the other three corners.

**Proof sketch.** The two sides of the offset at the corner are boxes inside the set, and the vector
is in the fan (`sector_mem`). So the four vertices of the box between the opposite corner and the
vector are in the set, and with them the point. -/
lemma offset_mem {a b r : ℝ} (ha : 0 ≤ a) (hr : 0 ≤ r) {n : ℕ} (hn : 0 < n)
    (hfan : ∀ j ≤ n, r • direction (j * (Real.pi / 2 / n)) ∈ C)
    (hleft : (⟨-a - r, 0⟩ : ℂ) ∈ C) (hup : (⟨-a, r⟩ : ℂ) ∈ C) (hright : (⟨r, -b⟩ : ℂ) ∈ C)
    (hopposite : (⟨-a - r, -b⟩ : ℂ) ∈ C) {w z : ℂ} (hre : 0 ≤ w.re) (him : 0 ≤ w.im)
    (hw : ‖w‖ ≤ r * Real.cos (Real.pi / (4 * n))) (hzre : z.re ∈ Icc (-a) w.re)
    (hzim : z.im ∈ Icc (-b) w.im) : z ∈ C := by
  have hn' : (0 : ℝ) < n := Nat.cast_pos.mpr hn
  obtain ⟨hδ, hδ'⟩ := half_angle_mem hn
  have hw' : ‖w‖ ≤ r := hw.trans (mul_le_of_le_one_right hr (Real.cos_le_one _))
  have hwre : w.re ≤ r := (re_le_norm w).trans hw'
  have hwim : w.im ≤ r := (im_le_norm w).trans hw'
  -- the two sides that do not touch the corner
  have hend : (⟨r, 0⟩ : ℂ) ∈ C := by
    have hzero := hfan 0 (Nat.zero_le n)
    rwa [show r • direction ((0 : ℕ) * (Real.pi / 2 / n)) = ⟨r, 0⟩ by
      apply Complex.ext <;> simp] at hzero
  have hupper := box_subset hC (a := -a - r) (b := r) (by linarith) (le_refl 0) hleft hleft hend
    hend
  have hlower := box_subset hC (a := -a - r) (b := r) (c := -b) (by linarith) le_rfl hopposite
    hopposite hright hright
  have h0 : (0 : ℂ) ∈ C := hupper ⟨⟨by simp; linarith, by simpa using hr⟩, by simp⟩
  have hcorner : (⟨-a, 0⟩ : ℂ) ∈ C := hupper ⟨⟨by simpa using hr, by simp; linarith⟩, by simp⟩
  have hside := box_subset hC le_rfl hr hcorner hup hcorner hup
  -- the vector itself is in the fan
  have hvector : w ∈ C := by
    obtain ⟨α, hα, hα', hpolar⟩ := exists_direction hre him
    have hstep : 2 * (Real.pi / (4 * n)) = Real.pi / 2 / n := by
      field_simp
      ring
    have hvertices : ∀ j ≤ n, r • direction (0 + j * (2 * (Real.pi / (4 * n)))) ∈ C := by
      intro j hj
      rw [zero_add, hstep]
      exact hfan j hj
    rw [← hpolar]
    refine sector_mem hC h0 hδ hδ' (norm_nonneg w) hw hn hvertices hα ?_
    rwa [zero_add, hstep, mul_div_cancel₀ _ hn'.ne']
  have hbox := box_subset hC (a := -a) (b := w.re) (c := -b) (d := w.im)
    (hzre.1.trans hzre.2) (hzim.1.trans hzim.2)
    (hlower ⟨⟨by simpa using hr, by simp; linarith⟩, by simp⟩)
    (hside ⟨by simp, ⟨him, hwim⟩⟩)
    (hlower ⟨⟨by simp; linarith, hwre⟩, by simp⟩) hvector
  exact hbox ⟨hzre, hzim⟩

end Plane

end PlaneConvex
