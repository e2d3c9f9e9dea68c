import CollisionMonitor.Models
import Mathlib.Tactic.Linarith

set_option relaxedAutoImplicit false
set_option autoImplicit false

/-!
# Action envelopes

The decision policy uses geometry through two calls: `action_envelope` builds the area a robot
may occupy under an action, or raises, and `geometries_conflict` tells whether two areas overlap
or touch. Polygon construction and intersection are Shapely's, so both are parameters here.

## Main definitions

* `Geometry` — the envelopes of a configuration and their intersection test.
* `Geometry.Conflict` — two robots' envelopes, each under an action, conflict.
* `Geometry.Conservative` — conflicts are symmetric and a Resume envelope contains the Pause
  envelope of the same robot.
* `lineGeometry` — robots on a line.
-/

namespace CollisionMonitor

/-- Bounds `(min_x, min_y, max_x, max_y)` of an envelope. -/
abbrev Bounds := ℚ × ℚ × ℚ × ℚ

/-- The envelopes built under one configuration and their intersection test. -/
structure Geometry (E : Type) where
  actionEnvelope : RobotSnapshot → Action → Except PyException E
  geometriesConflict : E → E → Bool
  bounds : E → Bounds
  wkt : E → String

namespace Geometry

variable {E : Type} (geometry : Geometry E)

/-- The envelope of `s` under `a` and that of `t` under `b` can be built and conflict. -/
def Conflict (s : RobotSnapshot) (a : Action) (t : RobotSnapshot) (b : Action) : Prop :=
  ∃ e f, geometry.actionEnvelope s a = .ok e ∧ geometry.actionEnvelope t b = .ok f ∧
    geometry.geometriesConflict e f = true

/-- The geometric assumptions: conflicts are symmetric, and what conflicts with a Pause envelope
conflicts with the same robot's Resume envelope. -/
structure Conservative : Prop where
  symm : ∀ s a t b, geometry.Conflict s a t b → geometry.Conflict t b s a
  pause_le_resume : ∀ s t b, (∃ e, geometry.actionEnvelope s .resume = .ok e) →
    geometry.Conflict s .pause t b → geometry.Conflict s .resume t b

variable {geometry}

/-- Two actions conflict iff their envelopes do. -/
lemma conflict_iff {s t : RobotSnapshot} {a b : Action} {e f : E}
    (he : geometry.actionEnvelope s a = .ok e) (hf : geometry.actionEnvelope t b = .ok f) :
    geometry.Conflict s a t b ↔ geometry.geometriesConflict e f = true := by
  constructor
  · rintro ⟨e', f', he', hf', h⟩
    rw [he] at he'
    rw [hf] at hf'
    obtain rfl := Except.ok.inj he'
    obtain rfl := Except.ok.inj hf'
    exact h
  · intro h
    exact ⟨e, f, he, hf, h⟩

/-- Two actions conflict where actions with smaller envelopes do. -/
lemma Conservative.of_smaller (h : geometry.Conservative) {s t : RobotSnapshot}
    {a a' b b' : Action} (ha : a = .pause ∨ a = a') (hb : b = .pause ∨ b = b')
    (hs : ∃ e, geometry.actionEnvelope s a' = .ok e)
    (ht : ∃ e, geometry.actionEnvelope t b' = .ok e)
    (hconf : geometry.Conflict s a t b) : geometry.Conflict s a' t b' := by
  have hleft : ∀ {s t : RobotSnapshot} {a a' b : Action}, a = .pause ∨ a = a' →
      (∃ e, geometry.actionEnvelope s a' = .ok e) → geometry.Conflict s a t b →
      geometry.Conflict s a' t b := by
    rintro s t a a' b (rfl | rfl) hs hconf
    · cases a' with
      | pause => exact hconf
      | resume => exact h.pause_le_resume s t b hs hconf
    · exact hconf
  exact h.symm _ _ _ _ (hleft hb ht (h.symm _ _ _ _ (hleft ha hs hconf)))

/-- A conflict of Pause envelopes is one under any two actions whose envelopes exist. -/
lemma Conservative.of_pause (h : geometry.Conservative) {s t : RobotSnapshot} {a b : Action}
    (hs : ∃ e, geometry.actionEnvelope s a = .ok e) (ht : ∃ e, geometry.actionEnvelope t b = .ok e)
    (hconf : geometry.Conflict s .pause t .pause) : geometry.Conflict s a t b :=
  h.of_smaller (.inl rfl) (.inl rfl) hs ht hconf

end Geometry

/-! ## Robots on a line -/

/-- Robots of radius one half on a line. A paused robot occupies the interval around its position,
a resumed one also the way to its next position. -/
def lineGeometry : Geometry (ℚ × ℚ) where
  actionEnvelope := fun s action => .ok (match action with
    | .pause => (s.state.x - 1 / 2, s.state.x + 1 / 2)
    | .resume => (min s.state.x s.nextPose.x - 1 / 2, max s.state.x s.nextPose.x + 1 / 2))
  geometriesConflict := fun e f => decide (e.1 ≤ f.2) && decide (f.1 ≤ e.2)
  bounds := fun e => (e.1, 0, e.2, 0)
  wkt := fun e => "[" ++ toString e.1 ++ ", " ++ toString e.2 ++ "]"

/-- Envelopes on the line contain the footprint, and conflicts are symmetric. -/
lemma lineGeometry_conservative : lineGeometry.Conservative where
  symm := by
    rintro s a t b ⟨e, f, he, hf, h⟩
    exact ⟨f, e, hf, he, by simpa [lineGeometry, and_comm] using h⟩
  pause_le_resume := by
    rintro s t b - ⟨e, f, he, hf, h⟩
    obtain rfl := Except.ok.inj he
    refine ⟨_, f, rfl, hf, ?_⟩
    simp only [lineGeometry, Bool.and_eq_true, decide_eq_true_eq] at h ⊢
    have hmin := min_le_left s.state.x s.nextPose.x
    have hmax := le_max_left s.state.x s.nextPose.x
    exact ⟨by linarith [h.1], by linarith [h.2]⟩

/-- The robots on the line are half charged. -/
lemma half_battery : (0 : ℚ) ≤ 50 ∧ (50 : ℚ) ≤ 100 := by norm_num

/-- The state of a robot at a position on the line, with the rest of its path. -/
def lineState (robotId : RobotId) (x : ℚ) (path : List ℚ) : RobotState where
  deviceId := robotId
  timestamp := 0
  x
  y := 0
  theta := 0
  batteryLevel := 50
  loaded := false
  deadline := 1000
  path := path.map fun x => ⟨x, 0, 0⟩
  battery_range := half_battery

/-- A fresh robot on the line that heads for a next position. -/
def lineSnapshot (robotId : RobotId) (x next : ℚ) : RobotSnapshot where
  state := lineState robotId x [x, next]
  receivedAtMs := 0
  stale := false
  nextPose := ⟨next, 0, 0⟩
  atGoal := false

/-- The first robot on the line. -/
def robotA : RobotId := ⟨"a", by decide⟩

/-- The second robot on the line. -/
def robotB : RobotId := ⟨"b", by decide⟩

/-- The third robot on the line. -/
def robotC : RobotId := ⟨"c", by decide⟩

/-- The fourth robot on the line. -/
def robotD : RobotId := ⟨"d", by decide⟩

/-- The first robot comes before the second. -/
lemma robotA_lt_robotB : robotA < robotB := by decide

/-- Two robots that approach each other: only one of them can be resumed. -/
def approaching : List RobotSnapshot := [lineSnapshot robotA 0 3, lineSnapshot robotB 5 2]

/-- Three robots on a line, the last of which stands far away. -/
def distantThird : List RobotSnapshot := approaching ++ [lineSnapshot robotC 20 20]

end CollisionMonitor
