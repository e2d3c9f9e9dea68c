import CollisionMonitor.CollisionFreedom
import CollisionMonitor.Lib.PlaneConvex

set_option relaxedAutoImplicit false
set_option autoImplicit false

/-!
# Envelopes in the plane

The envelope construction of `geometry.py` in exact real arithmetic, where every coordinate is
finite. Points are complex numbers and Shapely's operations are exact, but for `buffer`, which
replaces the arcs of the offset by chords: the construction compensates for them. A Resume envelope
covers its whole movement with the requested margin.

## Main definitions

* `Quadrilateral`, with `box`, `rotate`, `translate` and `buffer` — what is used of Shapely.
* `orientedFootprint`, `resumeEnvelope` — the envelopes of poses.
* `exactGeometry` — the geometry of these envelopes.

## Main results

* `localFootprint_covers` — a footprint has every point within the margin of its rectangle.
* `resumeEnvelope_covers` — a Resume envelope covers the whole step.
* `resumeEnvelope_separated` — robots whose Resume envelopes are apart keep twice the margin.
* `exactGeometry_builds`, `exactGeometry_covering` — every envelope exists, and the geometric
  assumptions of the closed loop hold of them.
-/

namespace CollisionMonitor

open Outcome Set PlaneConvex

/-! ## Shapely's polygons -/

/-- The vertices of a quadrilateral, counter-clockwise. -/
abbrev Quadrilateral := Fin 4 → ℂ

/-- The position of a point of a robot at a pose, from that at the origin. -/
noncomputable def place (pose : Pose ℝ) : ℂ →ᵃ[ℝ] ℂ :=
  frame (direction pose.theta) ⟨pose.x, pose.y⟩

/-- A placed point is rotated and then moved. -/
@[simp] lemma place_apply (pose : Pose ℝ) (z : ℂ) :
    place pose z = direction pose.theta * z + ⟨pose.x, pose.y⟩ := rfl

namespace Quadrilateral

/-- `shapely.box`, with its order of the corners. -/
def box (minX minY maxX maxY : ℝ) : Quadrilateral :=
  ![⟨maxX, minY⟩, ⟨maxX, maxY⟩, ⟨minX, maxY⟩, ⟨minX, minY⟩]

variable (ring : Quadrilateral)

/-- `affinity.rotate` about the origin. -/
noncomputable def rotate (angle : ℝ) : Quadrilateral := fun k => direction angle * ring k

/-- `affinity.translate`. -/
def translate (xoff yoff : ℝ) : Quadrilateral := fun k => ring k + ⟨xoff, yoff⟩

/-- The points of a convex quadrilateral. -/
noncomputable def region : Set ℂ := convexHull ℝ (range ring)

/-- The outward normal of the side that ends at a vertex. -/
noncomputable def sideNormal (k : Fin 4) : ℂ :=
  (ring k - ring (k - 1)) / ‖ring k - ring (k - 1)‖ * (-Complex.I)

/-- A vertex of a round buffer: `quadSegs` chords replace the quarter-circle between the normals of
the two sides at a corner. -/
noncomputable def arcPoint (distance : ℝ) (quadSegs : ℕ) (k : Fin 4) (j : ℕ) : ℂ :=
  ring k + ring.sideNormal k * (distance • direction (j * (Real.pi / 2 / quadSegs)))

/-- `buffer` of a rectangle. -/
noncomputable def buffer (distance : ℝ) (quadSegs : ℕ) : Set ℂ :=
  convexHull ℝ {p | ∃ k, ∃ j ≤ quadSegs, p = ring.arcPoint distance quadSegs k j}

/-- A quadrilateral has a point. -/
lemma region_nonempty : ring.region.Nonempty := (range_nonempty ring).convexHull

/-! ### Placing a polygon -/

variable {ring} (pose : Pose ℝ)

/-- The normals turn with the polygon. -/
lemma sideNormal_place (k : Fin 4) :
    ((ring.rotate pose.theta).translate pose.x pose.y).sideNormal k =
      direction pose.theta * ring.sideNormal k := by
  have hside : (ring.rotate pose.theta).translate pose.x pose.y k -
      (ring.rotate pose.theta).translate pose.x pose.y (k - 1) =
        direction pose.theta * (ring k - ring (k - 1)) := by
    simp only [translate, rotate]
    ring
  rw [sideNormal, sideNormal, hside, norm_mul, norm_direction, one_mul]
  ring

/-- The points of a placed polygon. -/
lemma region_place : ((ring.rotate pose.theta).translate pose.x pose.y).region =
    place pose '' ring.region := by
  rw [region, region, AffineMap.image_convexHull, ← range_comp]
  rfl

/-- The buffer of a placed polygon. -/
lemma buffer_place (distance : ℝ) (quadSegs : ℕ) :
    ((ring.rotate pose.theta).translate pose.x pose.y).buffer distance quadSegs =
      place pose '' ring.buffer distance quadSegs := by
  have harc : ∀ k j, ((ring.rotate pose.theta).translate pose.x pose.y).arcPoint distance quadSegs
      k j = place pose (ring.arcPoint distance quadSegs k j) := by
    intro k j
    simp only [arcPoint, sideNormal_place, place_apply]
    simp only [translate, rotate]
    ring
  rw [buffer, buffer, AffineMap.image_convexHull]
  congr 1
  ext p
  constructor
  · rintro ⟨k, j, hj, rfl⟩
    exact ⟨_, ⟨k, j, hj, rfl⟩, (harc k j).symm⟩
  · rintro ⟨_, ⟨k, j, hj, rfl⟩, rfl⟩
    exact ⟨k, j, hj, (harc k j).symm⟩

/-! ### Boxes -/

/-- The normals of a box, in the order of its sides. -/
def boxNormal : Fin 4 → ℂ := ![-Complex.I, 1, Complex.I, -1]

/-- The normals of a box are unit vectors. -/
lemma norm_boxNormal (k : Fin 4) : ‖boxNormal k‖ = 1 := by
  fin_cases k <;> simp [boxNormal]

/-- The next normal is a quarter turn on. -/
lemma boxNormal_succ (k : Fin 4) : boxNormal (k + 1) = boxNormal k * Complex.I := by
  fin_cases k <;> simp [boxNormal]

/-- A vector is in the quadrant that follows one of the normals. -/
lemma exists_quadrant (e : ℂ) : ∃ k w, 0 ≤ w.re ∧ 0 ≤ w.im ∧ e = boxNormal k * w := by
  rcases le_total 0 e.re with hre | hre <;> rcases le_total 0 e.im with him | him
  · exact ⟨1, e, hre, him, by simp [boxNormal]⟩
  · exact ⟨0, ⟨-e.im, e.re⟩, neg_nonneg.mpr him, hre, by apply Complex.ext <;> simp [boxNormal]⟩
  · exact ⟨2, ⟨e.im, -e.re⟩, him, neg_nonneg.mpr hre, by apply Complex.ext <;> simp [boxNormal]⟩
  · exact ⟨3, ⟨-e.re, -e.im⟩, neg_nonneg.mpr hre, neg_nonneg.mpr him,
      by apply Complex.ext <;> simp [boxNormal]⟩

section Box

variable {minX minY maxX maxY : ℝ}

/-- The points of a box. -/
lemma region_box (hx : minX ≤ maxX) (hy : minY ≤ maxY) :
    (box minX minY maxX maxY).region = Icc minX maxX ×ℂ Icc minY maxY := by
  rw [box_eq_convexHull hx hy, region]
  congr 1
  ext ⟨x, y⟩
  have hcorners : (⟨x, y⟩ : ℂ) ∈ range (box minX minY maxX maxY) ↔ x = minX ∧ y = minY ∨
      x = minX ∧ y = maxY ∨ x = maxX ∧ y = maxY ∨ x = maxX ∧ y = minY := by
    simp [box]
  rw [hcorners]
  simp only [Complex.mem_reProdIm, mem_insert_iff, mem_singleton_iff]
  tauto

/-- The length of the side that starts at a corner. -/
def boxExtent (minX minY maxX maxY : ℝ) : Fin 4 → ℝ :=
  ![maxY - minY, maxX - minX, maxY - minY, maxX - minX]

/-- The sides of a box are not degenerate. -/
lemma boxExtent_pos (hx : minX < maxX) (hy : minY < maxY) (k : Fin 4) :
    0 < boxExtent minX minY maxX maxY k := by
  fin_cases k <;> simpa [boxExtent]

/-- The corners of a box, seen from one of them. -/
lemma box_corner (k j : Fin 4) : box minX minY maxX maxY (k + j) =
    box minX minY maxX maxY k + boxNormal k *
      ![0, ⟨-boxExtent minX minY maxX maxY k, 0⟩,
        ⟨-boxExtent minX minY maxX maxY k, -boxExtent minX minY maxX maxY (k + 1)⟩,
        ⟨0, -boxExtent minX minY maxX maxY (k + 1)⟩] j := by
  fin_cases k <;> fin_cases j <;> apply Complex.ext <;> simp [box, boxExtent, boxNormal]

/-- The normals of the sides of a box. -/
lemma sideNormal_box (hx : minX < maxX) (hy : minY < maxY) (k : Fin 4) :
    (box minX minY maxX maxY).sideNormal k = boxNormal k := by
  -- the side that ends at a corner starts at the third one after it
  have hextent := boxExtent_pos hx hy (k + 1)
  have hside : box minX minY maxX maxY k - box minX minY maxX maxY (k - 1) =
      boxExtent minX minY maxX maxY (k + 1) * (boxNormal k * Complex.I) := by
    rw [show k - 1 = k + 3 by rw [sub_eq_add_neg]; rfl, box_corner]
    apply Complex.ext <;> simp <;> ring
  rw [sideNormal, hside, norm_mul, norm_mul, norm_boxNormal, Complex.norm_I, Complex.norm_real,
    Real.norm_of_nonneg hextent.le, mul_one, mul_one,
    mul_div_cancel_left₀ _ (Complex.ofReal_ne_zero.mpr hextent.ne')]
  linear_combination -boxNormal k * Complex.I_sq

/-- A point of a box, seen from one of its corners. -/
lemma exists_local {z : ℂ} (hz : z ∈ Icc minX maxX ×ℂ Icc minY maxY) (k : Fin 4) :
    ∃ v : ℂ, v.re ∈ Icc (-boxExtent minX minY maxX maxY k) 0 ∧
      v.im ∈ Icc (-boxExtent minX minY maxX maxY (k + 1)) 0 ∧
        z = box minX minY maxX maxY k + boxNormal k * v := by
  obtain ⟨⟨hleft, hright⟩, hlower, hupper⟩ := hz
  have hcoordinates : ∃ v : ℂ, z = box minX minY maxX maxY k + boxNormal k * v := by
    refine ⟨(boxNormal k)⁻¹ * (z - box minX minY maxX maxY k), ?_⟩
    rw [mul_inv_cancel_left₀ (norm_ne_zero_iff.mp (by simp [norm_boxNormal])), add_sub_cancel]
  obtain ⟨v, rfl⟩ := hcoordinates
  refine ⟨v, ?_, ?_, rfl⟩
  all_goals
    fin_cases k <;> simp [box, boxNormal, boxExtent] at hleft hright hlower hupper ⊢
  all_goals
    constructor <;> linarith

end Box

/-- **One corner of a buffer.** The turns and sides that follow a corner of a rectangle make the
buffer cover its quarter of the offset.

**Proof sketch.** In the frame of the corner this is the statement about one corner of an offset
(`offset_mem`). The fan consists of the points of the arc at the corner, and the other points that
it needs are ends of the arcs at the other three. -/
lemma corner_mem (ring : Quadrilateral) (k : Fin 4) {a b distance : ℝ} (ha : 0 ≤ a)
    (hdistance : 0 ≤ distance) {n : ℕ} (hn : 0 < n)
    (hnext : ring (k + 1) = ring k + ring.sideNormal k * ⟨-a, 0⟩)
    (hopposite : ring (k + 2) = ring k + ring.sideNormal k * ⟨-a, -b⟩)
    (hprevious : ring (k + 3) = ring k + ring.sideNormal k * ⟨0, -b⟩)
    (hturn : ∀ j, ring.sideNormal (j + 1) = ring.sideNormal j * Complex.I)
    {w z : ℂ} (hre : 0 ≤ w.re) (him : 0 ≤ w.im)
    (hw : ‖w‖ ≤ distance * Real.cos (Real.pi / (4 * n))) (hzre : z.re ∈ Icc (-a) w.re)
    (hzim : z.im ∈ Icc (-b) w.im) : ring k + ring.sideNormal k * z ∈ ring.buffer distance n := by
  have hC : Convex ℝ (Set.preimage (frame (ring.sideNormal k) (ring k)) (ring.buffer distance n)) :=
    (convex_convexHull ℝ _).affine_preimage _
  have harc : ∀ i, ∀ j ≤ n, ring.arcPoint distance n i j ∈ ring.buffer distance n :=
    fun i j hj => subset_convexHull ℝ _ ⟨i, j, hj, rfl⟩
  have hmem : ∀ {v p : ℂ}, p ∈ ring.buffer distance n → p = ring k + ring.sideNormal k * v →
      v ∈ Set.preimage (frame (ring.sideNormal k) (ring k)) (ring.buffer distance n) := by
    rintro v p hp rfl
    rwa [mem_preimage, frame_apply, add_comm]
  have hturn₂ : ring.sideNormal (k + 2) = -ring.sideNormal k := by
    rw [show k + 2 = k + 1 + 1 by rw [add_assoc]; rfl, hturn, hturn, mul_assoc, Complex.I_mul_I,
      mul_neg_one]
  have hturn₃ : ring.sideNormal (k + 3) = -ring.sideNormal k * Complex.I := by
    rw [show k + 3 = k + 2 + 1 by rw [add_assoc]; rfl, hturn, hturn₂]
  have hcovered := offset_mem hC ha hdistance hn
    (fun j hj => hmem (harc k j hj) rfl)
    (hmem (harc (k + 1) n le_rfl) ?_) (hmem (harc (k + 1) 0 (Nat.zero_le n)) ?_)
    (hmem (harc (k + 3) n le_rfl) ?_) (hmem (harc (k + 2) 0 (Nat.zero_le n)) ?_)
    hre him hw hzre hzim
  · rwa [mem_preimage, frame_apply, add_comm] at hcovered
  · rw [arcPoint, hnext, hturn, direction_quarter hn]
    simp only [Complex.mk_eq_add_mul_I, Complex.real_smul]
    push_cast
    linear_combination ring.sideNormal k * distance * Complex.I_sq
  · rw [arcPoint, hnext, hturn]
    simp only [Complex.mk_eq_add_mul_I, Complex.real_smul, Nat.cast_zero, zero_mul, direction_zero]
    push_cast
    ring
  · rw [arcPoint, hprevious, hturn₃, direction_quarter hn]
    simp only [Complex.mk_eq_add_mul_I, Complex.real_smul]
    push_cast
    linear_combination -(ring.sideNormal k * distance) * Complex.I_sq
  · rw [arcPoint, hopposite, hturn₂]
    simp only [Complex.mk_eq_add_mul_I, Complex.real_smul, Nat.cast_zero, zero_mul, direction_zero]
    push_cast
    ring

/-- **The buffer of a box** covers the offset that its chords are compensated for. -/
lemma buffer_box {minX minY maxX maxY distance : ℝ} (hx : minX < maxX) (hy : minY < maxY)
    (hdistance : 0 ≤ distance) {n : ℕ} (hn : 0 < n) {z e : ℂ}
    (hz : z ∈ Icc minX maxX ×ℂ Icc minY maxY)
    (he : ‖e‖ ≤ distance * Real.cos (Real.pi / (4 * n))) :
    z + e ∈ (box minX minY maxX maxY).buffer distance n := by
  obtain ⟨k, w, hre, him, rfl⟩ := exists_quadrant e
  obtain ⟨v, hvre, hvim, rfl⟩ := exists_local hz k
  rw [norm_mul, norm_boxNormal, one_mul] at he
  have hnormal := sideNormal_box hx hy
  have hcovered := corner_mem (box minX minY maxX maxY) k (boxExtent_pos hx hy k).le hdistance hn
    (by rw [hnormal]; exact box_corner k 1) (by rw [hnormal]; exact box_corner k 2)
    (by rw [hnormal]; exact box_corner k 3)
    (fun j => by rw [hnormal, hnormal, boxNormal_succ]) hre him he (z := v + w)
    ⟨by rw [Complex.add_re]; linarith [hvre.1], by rw [Complex.add_re]; linarith [hvre.2]⟩
    ⟨by rw [Complex.add_im]; linarith [hvim.1], by rw [Complex.add_im]; linarith [hvim.2]⟩
  rwa [hnormal, mul_add, ← add_assoc] at hcovered

end Quadrilateral

/-- `math.atan2`. -/
noncomputable def atan2 (y x : ℝ) : ℝ := Complex.arg ⟨x, y⟩

/-- `math.hypot`. -/
noncomputable def hypot (x y : ℝ) : ℝ := √(x ^ 2 + y ^ 2)

/-! ## The construction -/

/-- Physical robot dimensions in metres. -/
structure RobotDimensions where
  widthMetres : ℝ
  lengthMetres : ℝ

/-- Quadrant segments of a round buffer. -/
def bufferQuadrantSegments : ℕ := 8

/-- The relative rounding guard of a buffer distance. -/
noncomputable def bufferRoundingGuard : ℝ := 1 / 10 ^ 12

/-- Inflate a round-buffer radius so its chords contain the requested offset. -/
noncomputable def conservativeBufferDistance (safetyMargin : ℝ) : ℝ :=
  let halfSegmentAngle := Real.pi / (4 * bufferQuadrantSegments)
  let compensated := safetyMargin / Real.cos halfSegmentAngle
  compensated * (1 + bufferRoundingGuard)

/-- Validated dimensions. -/
noncomputable def normaliseDimensions (dimensions : RobotDimensions) (robotId : String) :
    Except PyException RobotDimensions := do
  raiseIf (dimensions.widthMetres ≤ 0)
    (.geometryConstructionError robotId "width must be finite and greater than zero")
  raiseIf (dimensions.lengthMetres ≤ 0)
    (.geometryConstructionError robotId "length must be finite and greater than zero")
  return dimensions

open Classical in
/-- A valid polygon. Only hulls are passed, which need no repair. -/
noncomputable def validatedPolygon (geometry : Set ℂ) (robotId : String) :
    Except PyException (Set ℂ) := do
  raiseIf (geometry = ∅) (.geometryConstructionError robotId "constructed geometry is empty")
  return geometry

/-- The unrotated robot points along positive x and is centred at the origin. -/
noncomputable def unrotatedRectangle (size : RobotDimensions) : Quadrilateral :=
  let halfLength := size.lengthMetres / 2
  let halfWidth := size.widthMetres / 2
  .box (-halfLength) (-halfWidth) halfLength halfWidth

open Classical in
/-- A rectangle inflated by the safety margin. -/
noncomputable def inflate (footprint : Quadrilateral) (safetyMargin : ℝ) : Set ℂ :=
  if 0 < safetyMargin then
    footprint.buffer (conservativeBufferDistance safetyMargin) bufferQuadrantSegments
  else footprint.region

/-- Construct a footprint while retaining robot context for failures. -/
noncomputable def orientedFootprint (pose : Pose ℝ) (dimensions : RobotDimensions)
    (safetyMargin : ℝ) (robotId : String) : Except PyException (Set ℂ) := do
  raiseIf (safetyMargin < 0)
    (.geometryConstructionError robotId "safety margin must not be negative")
  let size ← normaliseDimensions dimensions robotId
  let footprint := ((unrotatedRectangle size).rotate pose.theta).translate pose.x pose.y
  validatedPolygon (inflate footprint safetyMargin) robotId

section Envelopes

variable (robotId : String) (dimensions : RobotDimensions) (safetyMargin : ℝ)

/-- The buffered footprint occupied while the robot is paused, from what is read of its snapshot and
the configuration. -/
noncomputable def pauseEnvelope (current : Pose ℝ) : Except PyException (Set ℂ) :=
  orientedFootprint current dimensions safetyMargin robotId

/-- The half-size of the squares that a turning robot sweeps. -/
noncomputable def circumscribedRadius : ℝ :=
  hypot dimensions.lengthMetres dimensions.widthMetres / 2 +
    conservativeBufferDistance safetyMargin

/-- The axis-aligned square around a position. -/
def square (pose : Pose ℝ) (halfSize : ℝ) : Quadrilateral :=
  .box (pose.x - halfSize) (pose.y - halfSize) (pose.x + halfSize) (pose.y + halfSize)

open Classical in
/-- A conservative convex sweep between current and next poses. -/
noncomputable def resumeEnvelope (current next : Pose ℝ) : Except PyException (Set ℂ) := do
  let footprint ← orientedFootprint current dimensions safetyMargin robotId
  let following ← orientedFootprint next dimensions safetyMargin robotId
  let endpointHull := convexHull ℝ (footprint ∪ following)
  let headingDelta :=
    atan2 (Real.sin (next.theta - current.theta)) (Real.cos (next.theta - current.theta))
  if headingDelta = 0 then
    validatedPolygon endpointHull robotId
  else
    let rotationalStart := square current (circumscribedRadius dimensions safetyMargin)
    let rotationalEnd := square next (circumscribedRadius dimensions safetyMargin)
    validatedPolygon (convexHull ℝ (rotationalStart.region ∪ rotationalEnd.region)) robotId

end Envelopes

/-! ## Footprints -/

section Footprint

open Quadrilateral

/-- A shape with a point is valid. -/
lemma validatedPolygon_of_nonempty {geometry : Set ℂ} (h : geometry.Nonempty) (robotId : String) :
    validatedPolygon geometry robotId = .ok geometry := by
  rw [validatedPolygon, raiseIf_of_not _ h.ne_empty]
  rfl

/-- Dimensions are accepted iff both are positive, and are kept. -/
lemma normaliseDimensions_eq_ok {dimensions size : RobotDimensions} {robotId : String} :
    normaliseDimensions dimensions robotId = .ok size ↔
      0 < dimensions.widthMetres ∧ 0 < dimensions.lengthMetres ∧ dimensions = size := by
  simp only [normaliseDimensions, bind_eq_ok, raiseIf_eq_ok, not_le, Outcome.pure_def,
    Except.ok.injEq, exists_and_left, exists_const]

/-- Inflating a placed polygon places the inflated polygon. -/
lemma inflate_place (ring : Quadrilateral) (pose : Pose ℝ) (safetyMargin : ℝ) :
    inflate ((ring.rotate pose.theta).translate pose.x pose.y) safetyMargin =
      place pose '' inflate ring safetyMargin := by
  unfold inflate
  split_ifs
  · exact buffer_place pose _ _
  · exact region_place pose

/-- An inflated quadrilateral has a point. -/
lemma inflate_nonempty (ring : Quadrilateral) (safetyMargin : ℝ) :
    (inflate ring safetyMargin).Nonempty := by
  unfold inflate
  split_ifs
  · exact Set.Nonempty.convexHull ⟨_, 0, 0, Nat.zero_le _, rfl⟩
  · exact ring.region_nonempty

/-- The footprint of a robot at the origin. -/
noncomputable def localFootprint (dimensions : RobotDimensions) (safetyMargin : ℝ) : Set ℂ :=
  inflate (unrotatedRectangle dimensions) safetyMargin

/-- **Footprints.** A footprint is built from positive dimensions and a margin that is not negative,
and is that of the origin, placed at the pose. -/
lemma orientedFootprint_eq_ok {pose : Pose ℝ} {dimensions : RobotDimensions} {safetyMargin : ℝ}
    {robotId : String} {footprint : Set ℂ} :
    orientedFootprint pose dimensions safetyMargin robotId = .ok footprint ↔
      0 ≤ safetyMargin ∧ 0 < dimensions.widthMetres ∧ 0 < dimensions.lengthMetres ∧
        footprint = place pose '' localFootprint dimensions safetyMargin := by
  have hvalid : ∀ size : RobotDimensions, validatedPolygon
      (inflate (((unrotatedRectangle size).rotate pose.theta).translate pose.x pose.y)
        safetyMargin) robotId = .ok (place pose '' localFootprint size safetyMargin) := by
    intro size
    rw [inflate_place]
    exact validatedPolygon_of_nonempty ((inflate_nonempty _ _).image _) robotId
  constructor
  · intro h
    simp only [orientedFootprint, bind_eq_ok, raiseIf_eq_ok, not_lt, hvalid] at h
    obtain ⟨-, hmargin, size, hsize, hfootprint⟩ := h
    obtain ⟨hwidth, hlength, rfl⟩ := normaliseDimensions_eq_ok.mp hsize
    exact ⟨hmargin, hwidth, hlength, (Except.ok.inj hfootprint).symm⟩
  · rintro ⟨hmargin, hwidth, hlength, rfl⟩
    rw [orientedFootprint, raiseIf_of_not _ (not_lt.mpr hmargin), ok_bind,
      normaliseDimensions_eq_ok.mpr ⟨hwidth, hlength, rfl⟩]
    exact hvalid dimensions

/-! ### The buffer distance -/

variable {safetyMargin : ℝ} (hmargin : 0 ≤ safetyMargin)
include hmargin

/-- **The compensation.** The chords of the buffer distance stay at least the margin away. -/
lemma le_conservativeBufferDistance_mul_cos :
    safetyMargin ≤ conservativeBufferDistance safetyMargin *
      Real.cos (Real.pi / (4 * bufferQuadrantSegments)) := by
  have hcos := cos_half_angle_pos (n := bufferQuadrantSegments) (by decide)
  have hguard : (1 : ℝ) ≤ 1 + bufferRoundingGuard := by norm_num [bufferRoundingGuard]
  have heq : conservativeBufferDistance safetyMargin *
      Real.cos (Real.pi / (4 * bufferQuadrantSegments)) =
        safetyMargin * (1 + bufferRoundingGuard) := by
    rw [conservativeBufferDistance]
    field_simp
  rw [heq]
  exact le_mul_of_one_le_right hmargin hguard

/-- The distance of the buffer is not negative. -/
lemma conservativeBufferDistance_nonneg : 0 ≤ conservativeBufferDistance safetyMargin :=
  nonneg_of_mul_nonneg_left (hmargin.trans (le_conservativeBufferDistance_mul_cos hmargin))
    (cos_half_angle_pos (by decide))

omit hmargin

/-! ### What a footprint covers -/

variable {dimensions : RobotDimensions}

/-- The physical rectangle of a robot at the origin. -/
lemma region_unrotatedRectangle (hwidth : 0 ≤ dimensions.widthMetres)
    (hlength : 0 ≤ dimensions.lengthMetres) : (unrotatedRectangle dimensions).region =
      Icc (-(dimensions.lengthMetres / 2)) (dimensions.lengthMetres / 2) ×ℂ
        Icc (-(dimensions.widthMetres / 2)) (dimensions.widthMetres / 2) :=
  region_box (by linarith) (by linarith)

/-- **The margin of a footprint.** A footprint has every point within the margin of its
rectangle. -/
lemma localFootprint_covers (hwidth : 0 < dimensions.widthMetres)
    (hlength : 0 < dimensions.lengthMetres) {z e : ℂ}
    (hz : z ∈ (unrotatedRectangle dimensions).region) (he : ‖e‖ ≤ safetyMargin) :
    z + e ∈ localFootprint dimensions safetyMargin := by
  rw [localFootprint, inflate]
  split_ifs with hpos
  · rw [region_unrotatedRectangle hwidth.le hlength.le] at hz
    exact buffer_box (by linarith) (by linarith) (conservativeBufferDistance_nonneg hpos.le)
      (by decide) hz (he.trans (le_conservativeBufferDistance_mul_cos hpos.le))
  · obtain rfl : e = 0 := norm_le_zero_iff.mp (he.trans (not_lt.mp hpos))
    rwa [add_zero]

/-- A placed footprint has every point within the margin of the placed rectangle. -/
lemma mem_place_of_infDist (hwidth : 0 < dimensions.widthMetres)
    (hlength : 0 < dimensions.lengthMetres) (pose : Pose ℝ) {p : ℂ}
    (hp : Metric.infDist p (place pose '' localFootprint dimensions 0) ≤ safetyMargin) :
    p ∈ place pose '' localFootprint dimensions safetyMargin := by
  have hphysical : localFootprint dimensions 0 = (unrotatedRectangle dimensions).region :=
    if_neg (lt_irrefl 0)
  rw [hphysical] at hp
  -- the rectangle is compact, so one of its points is closest
  have hcompact : IsCompact (place pose '' (unrotatedRectangle dimensions).region) := by
    rw [← region_place]
    exact (finite_range _).isCompact_convexHull ℝ
  obtain ⟨_, ⟨z, hz, rfl⟩, hclosest⟩ :=
    hcompact.exists_infDist_eq_dist ((region_nonempty _).image _) p
  have hunit : direction pose.theta ≠ 0 := norm_ne_zero_iff.mp (by simp)
  refine ⟨z + (direction pose.theta)⁻¹ * (p - place pose z),
    localFootprint_covers hwidth hlength hz ?_, ?_⟩
  · rw [norm_mul, norm_inv, norm_direction, inv_one, one_mul, ← dist_eq_norm, ← hclosest]
    exact hp
  · simp only [place_apply]
    field_simp
    ring

/-- The corners of the rectangle are at half its diagonal. -/
lemma norm_unrotatedRectangle (k : Fin 4) : ‖unrotatedRectangle dimensions k‖ =
    hypot dimensions.lengthMetres dimensions.widthMetres / 2 := by
  have hhalf : ∀ z : ℂ, z.re ^ 2 = (dimensions.lengthMetres / 2) ^ 2 →
      z.im ^ 2 = (dimensions.widthMetres / 2) ^ 2 →
        ‖z‖ = hypot dimensions.lengthMetres dimensions.widthMetres / 2 := by
    intro z hre him
    rw [Complex.norm_eq_sqrt_sq_add_sq, hre, him, div_pow, div_pow, ← add_div,
      Real.sqrt_div' _ (sq_nonneg 2), Real.sqrt_sq two_pos.le]
    rfl
  apply hhalf <;> fin_cases k <;> simp [unrotatedRectangle, box]

/-- A footprint is in its circumscribed circle. -/
lemma localFootprint_subset (hwidth : 0 < dimensions.widthMetres)
    (hlength : 0 < dimensions.lengthMetres) (hmargin : 0 ≤ safetyMargin) :
    localFootprint dimensions safetyMargin ⊆
      Metric.closedBall 0 (circumscribedRadius dimensions safetyMargin) := by
  have hdistance := conservativeBufferDistance_nonneg hmargin
  rw [localFootprint, inflate]
  split_ifs
  · refine convexHull_min ?_ (convex_closedBall _ _)
    rintro _ ⟨k, j, -, rfl⟩
    rw [mem_closedBall_zero_iff, arcPoint, circumscribedRadius]
    refine (norm_add_le _ _).trans (add_le_add (norm_unrotatedRectangle k).le (le_of_eq ?_))
    rw [norm_mul, unrotatedRectangle, sideNormal_box (by linarith) (by linarith), norm_boxNormal,
      one_mul, norm_smul, norm_direction, mul_one, Real.norm_of_nonneg hdistance]
  · refine convexHull_min ?_ (convex_closedBall _ _)
    rintro _ ⟨k, rfl⟩
    rw [mem_closedBall_zero_iff, norm_unrotatedRectangle, circumscribedRadius]
    exact le_add_of_nonneg_right hdistance

/-- A square has the circle of its half-size. -/
lemma mem_square (pose : Pose ℝ) {v : ℂ} {halfSize : ℝ} (hv : ‖v‖ ≤ halfSize) :
    v + ⟨pose.x, pose.y⟩ ∈ (square pose halfSize).region := by
  have hre := abs_le.mp ((Complex.abs_re_le_norm v).trans hv)
  have him := abs_le.mp ((Complex.abs_im_le_norm v).trans hv)
  rw [square, region_box (by linarith) (by linarith)]
  exact ⟨⟨by rw [Complex.add_re]; linarith [hre.1], by rw [Complex.add_re]; linarith [hre.2]⟩,
    ⟨by rw [Complex.add_im]; linarith [him.1], by rw [Complex.add_im]; linarith [him.2]⟩⟩

end Footprint

/-! ## The Resume envelope -/

section Resume

variable {robotId : String} {dimensions : RobotDimensions} {safetyMargin : ℝ}
  {current next : Pose ℝ}

/-- A direction depends on the angle alone. -/
lemma direction_eq_of_angle {a b : ℝ} (h : (a : Real.Angle) = b) : direction a = direction b := by
  apply Complex.ext
  · simpa using congrArg Real.Angle.cos h
  · simpa using congrArg Real.Angle.sin h

/-- The heading delta is zero iff the headings are the same modulo a turn. -/
lemma atan2_eq_zero_iff (a b : ℝ) :
    atan2 (Real.sin (a - b)) (Real.cos (a - b)) = 0 ↔ (a : Real.Angle) = b := by
  have hdirection : (⟨Real.cos (a - b), Real.sin (a - b)⟩ : ℂ) = direction (a - b) := by
    apply Complex.ext <;> simp
  rw [atan2, hdirection, direction, Complex.arg_exp_mul_I, ← Real.Angle.toReal_coe,
    Real.Angle.toReal_eq_zero_iff, Real.Angle.coe_sub, sub_eq_zero]

open Classical in
/-- The hull that a Resume envelope is: of both footprints, or of both squares if the robot
turns. -/
noncomputable def sweep (dimensions : RobotDimensions) (safetyMargin : ℝ) (current next : Pose ℝ) :
    Set ℂ :=
  if (next.theta : Real.Angle) = current.theta then
    convexHull ℝ (place current '' localFootprint dimensions safetyMargin ∪
      place next '' localFootprint dimensions safetyMargin)
  else
    convexHull ℝ ((square current (circumscribedRadius dimensions safetyMargin)).region ∪
      (square next (circumscribedRadius dimensions safetyMargin)).region)

/-- The sweep is convex. -/
lemma sweep_convex : Convex ℝ (sweep dimensions safetyMargin current next) := by
  unfold sweep
  split_ifs
  all_goals exact convex_convexHull ℝ _

/-- **The envelope.** A Resume envelope is built wherever a footprint is, and is the hull. -/
lemma resumeEnvelope_eq_ok {envelope : Set ℂ} :
    resumeEnvelope robotId dimensions safetyMargin current next = .ok envelope ↔
      0 ≤ safetyMargin ∧ 0 < dimensions.widthMetres ∧ 0 < dimensions.lengthMetres ∧
        envelope = sweep dimensions safetyMargin current next := by
  have hvalid : 0 ≤ safetyMargin → 0 < dimensions.widthMetres → 0 < dimensions.lengthMetres →
      resumeEnvelope robotId dimensions safetyMargin current next =
        .ok (sweep dimensions safetyMargin current next) := by
    intro hmargin hwidth hlength
    have hfootprint : ∀ pose, orientedFootprint pose dimensions safetyMargin robotId =
        .ok (place pose '' localFootprint dimensions safetyMargin) :=
      fun pose => orientedFootprint_eq_ok.mpr ⟨hmargin, hwidth, hlength, rfl⟩
    simp only [resumeEnvelope, hfootprint, ok_bind]
    split_ifs with hdelta
    · rw [sweep, if_pos ((atan2_eq_zero_iff _ _).mp hdelta)]
      exact validatedPolygon_of_nonempty (((inflate_nonempty _ _).image _).inl.convexHull) robotId
    · rw [sweep, if_neg (mt (atan2_eq_zero_iff _ _).mpr hdelta)]
      exact validatedPolygon_of_nonempty ((Quadrilateral.region_nonempty _).inl.convexHull) robotId
  constructor
  · intro h
    obtain ⟨footprint, hfootprint, -⟩ := bind_eq_ok.mp h
    obtain ⟨hmargin, hwidth, hlength, -⟩ := orientedFootprint_eq_ok.mp hfootprint
    rw [hvalid hmargin hwidth hlength] at h
    exact ⟨hmargin, hwidth, hlength, (Except.ok.inj h).symm⟩
  · rintro ⟨hmargin, hwidth, hlength, rfl⟩
    exact hvalid hmargin hwidth hlength

/-- The headings of a step: any if the robot turns, and the common one otherwise. -/
def HeadingOfStep (current next : Pose ℝ) (heading : ℝ) : Prop :=
  (next.theta : Real.Angle) = current.theta → (heading : Real.Angle) = current.theta

/-- A pose on the way from the current to the next position. -/
noncomputable def poseOfStep (current next : Pose ℝ) (t heading : ℝ) : Pose ℝ :=
  ⟨(1 - t) * current.x + t * next.x, (1 - t) * current.y + t * next.y, heading⟩

/-- **Both ends.** The envelope has a footprint turned to any heading of the step at both ends. -/
lemma sweep_ends (hwidth : 0 < dimensions.widthMetres) (hlength : 0 < dimensions.lengthMetres)
    (hmargin : 0 ≤ safetyMargin) {heading : ℝ} (hheading : HeadingOfStep current next heading)
    {p : ℂ} (hp : p ∈ localFootprint dimensions safetyMargin) {pose : Pose ℝ}
    (hpose : pose ∈ [current, next]) : direction heading * p + ⟨pose.x, pose.y⟩ ∈
      sweep dimensions safetyMargin current next := by
  unfold sweep
  split_ifs with hsame
  · have hturn : direction heading = direction pose.theta := by
      rw [direction_eq_of_angle (hheading hsame)]
      rcases List.mem_pair.mp hpose with rfl | rfl
      · rfl
      · exact (direction_eq_of_angle hsame).symm
    rw [hturn]
    apply subset_convexHull
    rcases List.mem_pair.mp hpose with rfl | rfl
    · exact .inl ⟨p, hp, rfl⟩
    · exact .inr ⟨p, hp, rfl⟩
  · have hnorm : ‖direction heading * p‖ ≤ circumscribedRadius dimensions safetyMargin := by
      rw [norm_mul, norm_direction, one_mul]
      exact mem_closedBall_zero_iff.mp (localFootprint_subset hwidth hlength hmargin hp)
    apply subset_convexHull
    rcases List.mem_pair.mp hpose with rfl | rfl
    · exact .inl (mem_square _ hnorm)
    · exact .inr (mem_square _ hnorm)

/-- The envelope has the footprints at both ends. -/
lemma place_subset_sweep (hwidth : 0 < dimensions.widthMetres)
    (hlength : 0 < dimensions.lengthMetres) (hmargin : 0 ≤ safetyMargin) {pose : Pose ℝ}
    (hpose : pose ∈ [current, next]) : place pose '' localFootprint dimensions safetyMargin ⊆
      sweep dimensions safetyMargin current next := by
  rintro _ ⟨p, hp, rfl⟩
  refine sweep_ends hwidth hlength hmargin (fun hsame => ?_) hp hpose
  rcases List.mem_pair.mp hpose with rfl | rfl
  · rfl
  · exact hsame

/-- **The whole step.** The envelope has the footprint at every pose of the step. -/
lemma sweep_covers (hwidth : 0 < dimensions.widthMetres) (hlength : 0 < dimensions.lengthMetres)
    (hmargin : 0 ≤ safetyMargin) {heading : ℝ} (hheading : HeadingOfStep current next heading)
    {t : ℝ} (ht : t ∈ Icc (0 : ℝ) 1) :
    place (poseOfStep current next t heading) '' localFootprint dimensions safetyMargin ⊆
      sweep dimensions safetyMargin current next := by
  rintro _ ⟨p, hp, rfl⟩
  have hends : ∀ pose ∈ [current, next], (⟨pose.x, pose.y⟩ : ℂ) + direction heading * p ∈
      sweep dimensions safetyMargin current next := by
    intro pose hpose
    rw [add_comm]
    exact sweep_ends hwidth hlength hmargin hheading hp hpose
  have hmem := translate_mem sweep_convex (hends current (by simp)) (hends next (by simp)) ht
  convert hmem using 1
  rw [place_apply, add_comm]
  apply congrArg (· + direction heading * p)
  apply Complex.ext <;> simp [poseOfStep]

/-- **The Resume envelope covers the whole step.** It exists for positive dimensions and a margin
that is not negative, contains the Pause envelope and the next footprint, and has every point within
the margin of the physical rectangle at any position and heading of the step.

**Proof sketch.** The sweep is convex and contains the inflated footprints at both ends and on the
way, where the arc of the heading is covered by its polygon (`sweep_covers`). The buffer is at least
as wide as the margin in every direction (`mem_place_of_infDist`). -/
theorem resumeEnvelope_covers (robotId : String) (hwidth : 0 < dimensions.widthMetres)
    (hlength : 0 < dimensions.lengthMetres) (hmargin : 0 ≤ safetyMargin) (current next : Pose ℝ) :
    ∃ envelope pause following,
      resumeEnvelope robotId dimensions safetyMargin current next = .ok envelope ∧
      pauseEnvelope robotId dimensions safetyMargin current = .ok pause ∧
      orientedFootprint next dimensions safetyMargin robotId = .ok following ∧
      pause ⊆ envelope ∧ following ⊆ envelope ∧
      ∀ t ∈ Icc (0 : ℝ) 1, ∀ heading, HeadingOfStep current next heading → ∃ physical,
        orientedFootprint (poseOfStep current next t heading) dimensions 0 robotId =
          .ok physical ∧
        ∀ p, Metric.infDist p physical ≤ safetyMargin → p ∈ envelope := by
  refine ⟨_, _, _, resumeEnvelope_eq_ok.mpr ⟨hmargin, hwidth, hlength, rfl⟩,
    orientedFootprint_eq_ok.mpr ⟨hmargin, hwidth, hlength, rfl⟩,
    orientedFootprint_eq_ok.mpr ⟨hmargin, hwidth, hlength, rfl⟩,
    place_subset_sweep hwidth hlength hmargin (by simp),
    place_subset_sweep hwidth hlength hmargin (by simp), ?_⟩
  intro t ht heading hheading
  refine ⟨_, orientedFootprint_eq_ok.mpr ⟨le_rfl, hwidth, hlength, rfl⟩, fun p hp => ?_⟩
  exact sweep_covers hwidth hlength hmargin hheading ht
    (mem_place_of_infDist hwidth hlength _ hp)

/-- The envelope of the quarter turn on the spot covers a robot that is halfway through it. -/
theorem resumeEnvelope_covers_turn : ∃ envelope physical : Set ℂ,
    resumeEnvelope "robot-geometry" ⟨63 / 100, 143 / 100⟩ (1 / 50) ⟨0, 0, 0⟩
      ⟨0, 0, (Real.pi / 2 : ℝ)⟩ = .ok envelope ∧
    orientedFootprint (poseOfStep ⟨0, 0, 0⟩ ⟨0, 0, (Real.pi / 2 : ℝ)⟩ (1 / 2) (Real.pi / 4))
      ⟨63 / 100, 143 / 100⟩ 0 "robot-geometry" = .ok physical ∧
    ∀ p, Metric.infDist p physical ≤ 1 / 50 → p ∈ envelope := by
  have hwidth : 0 < (⟨63 / 100, 143 / 100⟩ : RobotDimensions).widthMetres := by norm_num
  have hlength : 0 < (⟨63 / 100, 143 / 100⟩ : RobotDimensions).lengthMetres := by norm_num
  have hmargin : (0 : ℝ) ≤ 1 / 50 := by norm_num
  obtain ⟨envelope, -, -, henvelope, -, -, -, -, hcovers⟩ := resumeEnvelope_covers
    "robot-geometry" hwidth hlength hmargin ⟨0, 0, 0⟩ ⟨0, 0, (Real.pi / 2 : ℝ)⟩
  obtain ⟨physical, hphysical, hcovered⟩ := hcovers (1 / 2) (by norm_num) (Real.pi / 4)
    fun hsame => absurd hsame (by simpa using Real.Angle.pi_div_two_ne_zero)
  exact ⟨envelope, physical, henvelope, hphysical, hcovered⟩

/-- **Separation.** Two robots whose Resume envelopes are apart stay more than twice the margin from
each other, wherever each of them is on its step. -/
theorem resumeEnvelope_separated {robotId' : String} {current' next' : Pose ℝ} {e f : Set ℂ}
    (he : resumeEnvelope robotId dimensions safetyMargin current next = .ok e)
    (hf : resumeEnvelope robotId' dimensions safetyMargin current' next' = .ok f)
    (hapart : Disjoint e f) {t t' heading heading' : ℝ} (ht : t ∈ Icc (0 : ℝ) 1)
    (ht' : t' ∈ Icc (0 : ℝ) 1) (hheading : HeadingOfStep current next heading)
    (hheading' : HeadingOfStep current' next' heading') {q q' : ℂ}
    (hq : q ∈ place (poseOfStep current next t heading) '' localFootprint dimensions 0)
    (hq' : q' ∈ place (poseOfStep current' next' t' heading') '' localFootprint dimensions 0) :
    2 * safetyMargin < dist q q' := by
  obtain ⟨hmargin, hwidth, hlength, rfl⟩ := resumeEnvelope_eq_ok.mp he
  obtain ⟨-, -, -, rfl⟩ := resumeEnvelope_eq_ok.mp hf
  by_contra hclose
  rw [not_lt] at hclose
  -- the point halfway between them would be in both envelopes
  have hleft : Metric.infDist (midpoint ℝ q q')
      (place (poseOfStep current next t heading) '' localFootprint dimensions 0) ≤
        safetyMargin := by
    refine (Metric.infDist_le_dist_of_mem hq).trans ?_
    rw [dist_midpoint_left, Real.norm_of_nonneg two_pos.le]
    linarith
  have hright : Metric.infDist (midpoint ℝ q q')
      (place (poseOfStep current' next' t' heading') '' localFootprint dimensions 0) ≤
        safetyMargin := by
    refine (Metric.infDist_le_dist_of_mem hq').trans ?_
    rw [dist_midpoint_right, Real.norm_of_nonneg two_pos.le]
    linarith
  exact Set.disjoint_left.mp hapart
    (sweep_covers hwidth hlength hmargin hheading ht (mem_place_of_infDist hwidth hlength _ hleft))
    (sweep_covers hwidth hlength hmargin hheading' ht'
      (mem_place_of_infDist hwidth hlength _ hright))

end Resume

/-! ## The geometry of the monitor -/

section Monitor

/-- A pose in real coordinates. -/
def realPose (pose : Pose ℚ) : Pose ℝ := ⟨pose.x, pose.y, pose.theta⟩

variable (config : MonitorConfig)

/-- Physical dimensions from monitor configuration. -/
noncomputable def configuredDimensions : RobotDimensions :=
  ⟨config.robotWidthMetres, config.robotLengthMetres⟩

/-- The configured dimensions are positive. -/
lemma configuredDimensions_pos : 0 < (configuredDimensions config).widthMetres ∧
    0 < (configuredDimensions config).lengthMetres := by
  constructor
  · exact Rat.cast_pos.mpr (config.positive_of_mem "robot_width_metres"
      (by simp [ConfigFields.positiveValues]))
  · exact Rat.cast_pos.mpr (config.positive_of_mem "robot_length_metres"
      (by simp [ConfigFields.positiveValues]))

open Classical in
/-- The envelopes of a configuration; what is recorded of a polygon stays a parameter. -/
noncomputable def exactGeometry (bounds : Set ℂ → Bounds) (wkt : Set ℂ → String) :
    PoseGeometry (Set ℂ) where
  pauseEnvelope := fun r current => pauseEnvelope r.val (configuredDimensions config)
    config.safetyMarginMetres (realPose current)
  resumeEnvelope := fun r current next => resumeEnvelope r.val (configuredDimensions config)
    config.safetyMarginMetres (realPose current) (realPose next)
  geometriesConflict := fun a b => decide (a ∩ b).Nonempty
  bounds
  wkt

/-- **No construction error.** An accepted configuration builds every envelope. -/
theorem exactGeometry_builds (bounds : Set ℂ → Bounds) (wkt : Set ℂ → String)
    (s : RobotSnapshot) (action : Action) :
    ∃ e, (exactGeometry config bounds wkt).toGeometry.actionEnvelope s action = .ok e := by
  have hmargin : (0 : ℝ) ≤ config.safetyMarginMetres :=
    Rat.cast_nonneg.mpr config.safetyMarginMetres_nonneg
  obtain ⟨hwidth, hlength⟩ := configuredDimensions_pos config
  cases action with
  | pause => exact ⟨_, orientedFootprint_eq_ok.mpr ⟨hmargin, hwidth, hlength, rfl⟩⟩
  | resume => exact ⟨_, resumeEnvelope_eq_ok.mpr ⟨hmargin, hwidth, hlength, rfl⟩⟩

/-- **The geometric assumptions hold.** Conflicts of the envelopes are symmetric, and a Resume
envelope has the footprints at both of its ends. -/
theorem exactGeometry_covering (bounds : Set ℂ → Bounds) (wkt : Set ℂ → String) :
    (exactGeometry config bounds wkt).Covering where
  symm := by
    intro e f h
    simpa [exactGeometry, inter_comm] using h
  covers := by
    intro r start next envelope henvelope pose hpose footprint hfootprint other hconf
    obtain ⟨hmargin, hwidth, hlength, rfl⟩ := resumeEnvelope_eq_ok.mp henvelope
    obtain ⟨-, -, -, rfl⟩ := orientedFootprint_eq_ok.mp hfootprint
    have hends : realPose pose ∈ [realPose start, realPose next] := by
      rcases List.mem_pair.mp hpose with rfl | rfl <;> simp
    have hsubset := place_subset_sweep hwidth hlength hmargin hends
    simp only [exactGeometry, decide_eq_true_eq] at hconf ⊢
    exact hconf.mono (inter_subset_inter_left other hsubset)

end Monitor

end CollisionMonitor
