import CollisionMonitor.ClosedLoop
import CollisionMonitor.FleetSafety

set_option relaxedAutoImplicit false
set_option autoImplicit false

/-!
# Collision freedom of the closed loop

When the initial footprints are apart, the footprints of all robots are apart at every tick, and so
are the movements that they make between two ticks. The envelopes read only poses, and a Resume
envelope covers the footprints at both ends of its movement.

## Main definitions

* `PoseGeometry` — envelopes that are built from poses, and the geometry they give.
* `PoseGeometry.Covering` — the geometric assumptions.
* `PoseGeometry.movementEnvelope` — what a robot occupied in a movement phase.
* `LoopSafe` — what holds of the poses and movements of a run.

## Main results

* `loop_collisionFree` — poses and movements are apart, and every tick is safe and committed.
-/

namespace CollisionMonitor

open Outcome

/-! ## Envelopes of poses -/

/-- Envelopes that are built from poses; the robot ID is that of a construction error. -/
structure PoseGeometry (E : Type) where
  pauseEnvelope : RobotId → Pose ℚ → Except PyException E
  resumeEnvelope : RobotId → Pose ℚ → Pose ℚ → Except PyException E
  geometriesConflict : E → E → Bool
  bounds : E → Bounds
  wkt : E → String

namespace PoseGeometry

variable {E : Type} (geometry : PoseGeometry E)

/-- The envelopes of a snapshot are those of its current and next pose. -/
def toGeometry : Geometry E where
  actionEnvelope := fun s action => match action with
    | .pause => geometry.pauseEnvelope s.deviceId s.state.currentPose
    | .resume => geometry.resumeEnvelope s.deviceId s.state.currentPose s.nextPose
  geometriesConflict := geometry.geometriesConflict
  bounds := geometry.bounds
  wkt := geometry.wkt

/-- **The geometric assumptions.** Conflicts are symmetric, and what conflicts with the footprint at
an end of a movement conflicts with its Resume envelope. -/
structure Covering : Prop where
  symm : ∀ e f, geometry.geometriesConflict e f = true → geometry.geometriesConflict f e = true
  covers : ∀ r start next sweep, geometry.resumeEnvelope r start next = .ok sweep →
    ∀ pose ∈ [start, next], ∀ foot, geometry.pauseEnvelope r pose = .ok foot →
      ∀ other, geometry.geometriesConflict foot other = true →
        geometry.geometriesConflict sweep other = true

/-- Two envelopes exist and do not conflict. -/
def Apart (left right : Except PyException E) : Prop :=
  ∃ e f, left = .ok e ∧ right = .ok f ∧ geometry.geometriesConflict e f = false

/-- What a robot occupied in a movement phase: the way to its next node if it advanced, and its
footprint otherwise. -/
def movementEnvelope (robot moved : SimulatedRobot) : Except PyException E :=
  if moved.nodesAdvanced = robot.nodesAdvanced then
    geometry.pauseEnvelope robot.robotId robot.pose
  else geometry.resumeEnvelope robot.robotId robot.pose moved.pose

variable {geometry}

/-- The geometry of snapshots is conservative. -/
lemma Covering.conservative (h : geometry.Covering) : geometry.toGeometry.Conservative where
  symm := fun s a t b ⟨e, f, he, hf, hconf⟩ => ⟨f, e, hf, he, h.symm _ _ hconf⟩
  pause_le_resume := by
    rintro s t b ⟨sweep, hsweep⟩ ⟨e, f, he, hf, hconf⟩
    exact ⟨sweep, f, hsweep, hf,
      h.covers _ _ _ _ hsweep _ List.mem_cons_self _ he _ hconf⟩

/-- What conflicts with the footprint of a robot after a movement phase conflicts with what it
occupied in it. -/
lemma Covering.of_moved (h : geometry.Covering) {robot moved : SimulatedRobot} {tick : ℤ}
    (hadvance : robot.advanceForTick tick = .ok moved) {sweep foot other : E}
    (hsweep : geometry.movementEnvelope robot moved = .ok sweep)
    (hfoot : geometry.pauseEnvelope moved.robotId moved.pose = .ok foot)
    (hconf : geometry.geometriesConflict foot other = true) :
    geometry.geometriesConflict sweep other = true := by
  rw [(SimulatedRobot.advanceForTick_same hadvance).1] at hfoot
  rcases SimulatedRobot.advanceForTick_eq_ok hadvance with ⟨-, -, hadvanced⟩ | ⟨-, rfl⟩
  · rw [movementEnvelope, if_neg (by rw [hadvanced.nodesAdvanced]; omega)] at hsweep
    exact h.covers _ _ _ _ hsweep _ (by simp) _ hfoot _ hconf
  · rw [movementEnvelope, if_pos rfl, hfoot] at hsweep
    rwa [← Except.ok.inj hsweep]

/-- Footprints after a movement phase are apart if the movements were. -/
lemma Covering.apart_moved (h : geometry.Covering) {robot moved other otherMoved : SimulatedRobot}
    {tick : ℤ} (hadvance : robot.advanceForTick tick = .ok moved)
    (hother : other.advanceForTick tick = .ok otherMoved)
    (hapart : geometry.Apart (geometry.movementEnvelope robot moved)
      (geometry.movementEnvelope other otherMoved)) {e f : E}
    (he : geometry.pauseEnvelope moved.robotId moved.pose = .ok e)
    (hf : geometry.pauseEnvelope otherMoved.robotId otherMoved.pose = .ok f) :
    geometry.geometriesConflict e f = false := by
  obtain ⟨sweep, otherSweep, hsweep, hotherSweep, hclear⟩ := hapart
  by_contra hconf
  rw [Bool.not_eq_false] at hconf
  have hfirst := h.symm _ _ (h.of_moved hadvance hsweep he hconf)
  have hboth := h.symm _ _ (h.of_moved hother hotherSweep hf hfirst)
  rw [hclear] at hboth
  cases hboth

end PoseGeometry

/-! ## The closed loop -/

section Loop

variable {E : Type} {wrappedAngle : ℚ → ℚ} {config : MonitorConfig} {geometry : PoseGeometry E}
  {cpSat : ℕ → Backend} {runId : String} {startEpochMs : ℤ} {scenario : ScenarioDefinition}
  {tickLimit : ℕ}

/-- The footprints of all robots are apart, so are the movements that they make next, and every tick
so far was safe and committed. -/
structure LoopSafe (geometry : PoseGeometry E) (s : LoopState) : Prop where
  poses : ∀ robot ∈ s.robots, ∀ other ∈ s.robots, robot.robotId ≠ other.robotId →
    geometry.Apart (geometry.pauseEnvelope robot.robotId robot.pose)
      (geometry.pauseEnvelope other.robotId other.pose)
  moves : ∀ robot ∈ s.robots, ∀ other ∈ s.robots, robot.robotId ≠ other.robotId →
    ∀ moved otherMoved, robot.advanceForTick (s.ticksRun + 1 : ℕ) = .ok moved →
      other.advanceForTick (s.ticksRun + 1 : ℕ) = .ok otherMoved →
      geometry.Apart (geometry.movementEnvelope robot moved)
        (geometry.movementEnvelope other otherMoved)
  reported : ∀ outcome ∈ s.outcomes, outcome.safetyValid = some true ∧
    ∃ result, outcome.serviceResult = some result ∧
      result.fleetDecision.tickMetadata.stateCommitted = true

/-- No robot moves before the first tick.

**Proof sketch.** A robot is created at its initial pose without an action, so it does not move, and
its envelope is that of its initial pose. -/
lemma LoopSafe.initial {robots : List SimulatedRobot}
    (hrobots : scenario.createRobots startEpochMs = .ok robots)
    (hinitial : ∀ robot ∈ scenario.robots, ∀ other ∈ scenario.robots,
      robot.deviceId ≠ other.deviceId →
        geometry.Apart (geometry.pauseEnvelope robot.deviceId robot.initialPose)
          (geometry.pauseEnvelope other.deviceId other.initialPose)) :
    LoopSafe geometry
      { robots, transport := InMemoryTransportState.initial startEpochMs } := by
  have hcreated : ∀ robot ∈ robots, ∃ definition ∈ scenario.robots,
      robot.robotId = definition.deviceId ∧ robot.pose = definition.initialPose ∧
        ∀ moved tick, robot.advanceForTick tick = .ok moved → moved = robot := by
    intro robot hrobot
    obtain ⟨definition, hdefinition, hcreate⟩ := exists_of_mem_mapM hrobots robot hrobot
    obtain ⟨hid, hpose, -, haction, -, -⟩ := SimulatedRobot.create_eq_ok hcreate
    refine ⟨definition, (mem_sortedBy _ _).mp hdefinition, hid, hpose,
      fun moved tick hadvance => ?_⟩
    rcases SimulatedRobot.advanceForTick_eq_ok hadvance with ⟨hresume, -, -⟩ | ⟨-, hstays⟩
    · rw [haction] at hresume
      cases hresume
    · exact hstays
  have hposes : ∀ robot ∈ robots, ∀ other ∈ robots, robot.robotId ≠ other.robotId →
      geometry.Apart (geometry.pauseEnvelope robot.robotId robot.pose)
        (geometry.pauseEnvelope other.robotId other.pose) := by
    intro robot hrobot other hother hne
    obtain ⟨definition, hdefinition, hid, hpose, -⟩ := hcreated robot hrobot
    obtain ⟨otherDefinition, hotherDefinition, hotherId, hotherPose, -⟩ := hcreated other hother
    rw [hid, hotherId] at hne ⊢
    rw [hpose, hotherPose]
    exact hinitial definition hdefinition otherDefinition hotherDefinition hne
  refine ⟨hposes, fun robot hrobot other hother hne moved otherMoved hadvance hotherAdvance => ?_,
    fun _ h => by cases h⟩
  obtain ⟨_, -, -, -, hstays⟩ := hcreated robot hrobot
  obtain ⟨_, -, -, -, hotherStays⟩ := hcreated other hother
  obtain rfl := hstays moved _ hadvance
  obtain rfl := hotherStays otherMoved _ hotherAdvance
  rw [PoseGeometry.movementEnvelope, if_pos rfl, PoseGeometry.movementEnvelope, if_pos rfl]
  exact hposes _ hrobot _ hother hne

/-- **Agreement.** A robot makes the movement that the engine validated for it: the one of its
returned action, or none. -/
lemma LoopTick.movement {s s' : LoopState} {fleet : List RobotSnapshot}
    {decision : EngineDecision} {outcome : SimulatorTickOutcome}
    (h : LoopTick wrappedAngle config geometry.toGeometry cpSat s s' fleet decision outcome)
    (hwrap : wrappedAngle 0 = 0) {robot moved : SimulatedRobot} (hrobot : robot ∈ s'.robots)
    {snapshot : RobotSnapshot} (hseen : robot.SeenIn wrappedAngle config snapshot) {tick : ℤ}
    (hadvance : robot.advanceForTick tick = .ok moved) :
    ∃ a, geometry.movementEnvelope robot moved = geometry.toGeometry.actionEnvelope snapshot a ∧
      (a = .pause ∨ a = decision.returned snapshot.deviceId) := by
  have hid : snapshot.deviceId = robot.robotId := hseen.describes.deviceId
  rcases SimulatedRobot.advanceForTick_eq_ok hadvance with ⟨hresume, hgoal, hadvanced⟩ | ⟨-, rfl⟩
  · refine ⟨.resume, ?_, .inr ?_⟩
    · obtain ⟨rest, hpath⟩ := hadvanced.path
      rw [PoseGeometry.movementEnvelope, if_neg (by rw [hadvanced.nodesAdvanced]; omega)]
      dsimp only [PoseGeometry.toGeometry]
      rw [hid, hseen.describes.currentPose, hseen.nextPose hwrap _ _ hpath]
    · rw [hid, ← (h.latestAction hrobot).2 hgoal, hresume]
  · refine ⟨.pause, ?_, .inl rfl⟩
    rw [PoseGeometry.movementEnvelope, if_pos rfl]
    dsimp only [PoseGeometry.toGeometry]
    rw [hid, hseen.describes.currentPose]

/-- The fleet that the engine decides on is clear if the movements before were apart. -/
lemma LoopTick.clear {s s' : LoopState} {fleet : List RobotSnapshot}
    {decision : EngineDecision} {outcome : SimulatorTickOutcome}
    (h : LoopTick wrappedAngle config geometry.toGeometry cpSat s s' fleet decision outcome)
    (hcover : geometry.Covering) (hsafe : LoopSafe geometry s) :
    Clear geometry.toGeometry fleet fun _ => .pause := by
  rintro left hleft right hright hne ⟨e, f, he, hf, hconf⟩
  obtain ⟨robot', hrobot', hseen⟩ := h.known left hleft
  obtain ⟨other', hother', hotherSeen⟩ := h.known right hright
  obtain ⟨robot, hrobot, moved, hadvance, rfl⟩ := h.robot_cases robot' hrobot'
  obtain ⟨other, hother, otherMoved, hotherAdvance, rfl⟩ := h.robot_cases other' hother'
  obtain ⟨hid, hpose, -, -, -⟩ := moved.afterPublication_deliver_same outcome.actions
  obtain ⟨hotherId, hotherPose, -, -, -⟩ :=
    otherMoved.afterPublication_deliver_same outcome.actions
  have hleftId : left.deviceId = moved.robotId := hseen.describes.deviceId.trans hid
  have hrightId : right.deviceId = otherMoved.robotId :=
    hotherSeen.describes.deviceId.trans hotherId
  have hids : robot.robotId ≠ other.robotId := by
    rw [← (SimulatedRobot.advanceForTick_same hadvance).1,
      ← (SimulatedRobot.advanceForTick_same hotherAdvance).1, ← hleftId, ← hrightId]
    exact hne
  have hapart := hsafe.moves robot hrobot other hother hids moved otherMoved hadvance hotherAdvance
  have hfoot : geometry.pauseEnvelope moved.robotId moved.pose = .ok e := by
    rw [← hleftId, ← hpose, ← hseen.describes.currentPose]
    exact he
  have hotherFoot : geometry.pauseEnvelope otherMoved.robotId otherMoved.pose = .ok f := by
    rw [← hrightId, ← hotherPose, ← hotherSeen.describes.currentPose]
    exact hf
  have hclear := hcover.apart_moved hadvance hotherAdvance hapart hfoot hotherFoot
  exact absurd hconf (by rw [Bool.not_eq_true]; exact hclear)

/-- **The step lemma.** A tick keeps poses and movements apart.

**Proof sketch.** The poses of the robots are the current poses of the snapshots, whose footprints
are apart by `h.clear`. A movement lies inside the envelope of the action that its robot received,
and a committed decision keeps these apart. -/
lemma LoopTick.safe {s s' : LoopState} {fleet : List RobotSnapshot}
    {decision : EngineDecision} {outcome : SimulatorTickOutcome}
    (h : LoopTick wrappedAngle config geometry.toGeometry cpSat s s' fleet decision outcome)
    (hinv : LoopInvariant config geometry.toGeometry cpSat s) (hcover : geometry.Covering)
    (hwrap : wrappedAngle 0 = 0) (hsafe : LoopSafe geometry s) : LoopSafe geometry s' := by
  have hclear := h.clear hcover hsafe
  obtain ⟨snapshots, nowMs, tickId, rfl, hrun⟩ := h.decided
  obtain ⟨hcommitted, hvalid, hreturned⟩ := decide_clear hcover.conservative hinv.engine hrun hclear
  have henvelopes := decide_envelopes hinv.engine hrun
  refine ⟨fun robot hrobot other hother hne => ?_,
    fun robot hrobot other hother hne moved otherMoved hadvance hotherAdvance => ?_,
    fun reported hreported => ?_⟩
  · obtain ⟨left, hleft, hseen⟩ := h.seen robot hrobot
    obtain ⟨right, hright, hotherSeen⟩ := h.seen other hother
    obtain ⟨e, he⟩ := henvelopes left hleft .pause
    obtain ⟨f, hf⟩ := henvelopes right hright .pause
    have hids : left.deviceId ≠ right.deviceId := by
      rw [RobotSnapshot.deviceId, RobotSnapshot.deviceId, hseen.describes.deviceId,
        hotherSeen.describes.deviceId]
      exact hne
    refine ⟨e, f, ?_, ?_, ?_⟩
    · rw [← hseen.describes.currentPose, ← hseen.describes.deviceId]
      exact he
    · rw [← hotherSeen.describes.currentPose, ← hotherSeen.describes.deviceId]
      exact hf
    · rw [← Bool.not_eq_true]
      exact fun hconf => hclear left hleft right hright hids ⟨e, f, he, hf, hconf⟩
  · obtain ⟨left, hleft, hseen⟩ := h.seen robot hrobot
    obtain ⟨right, hright, hotherSeen⟩ := h.seen other hother
    have hids : left.deviceId ≠ right.deviceId := by
      rw [RobotSnapshot.deviceId, RobotSnapshot.deviceId, hseen.describes.deviceId,
        hotherSeen.describes.deviceId]
      exact hne
    obtain ⟨a, hmovement, ha⟩ := h.movement hwrap hrobot hseen hadvance
    obtain ⟨b, hotherMovement, hb⟩ := h.movement hwrap hother hotherSeen hotherAdvance
    obtain ⟨e, he⟩ := henvelopes left hleft a
    obtain ⟨f, hf⟩ := henvelopes right hright b
    refine ⟨e, f, hmovement.trans he, hotherMovement.trans hf, ?_⟩
    rw [← Bool.not_eq_true]
    -- a conflict of the movements would be one of the returned actions
    exact fun hconf => hreturned left hleft right hright hids
      (hcover.conservative.of_smaller ha hb (henvelopes left hleft _) (henvelopes right hright _)
        ⟨e, f, he, hf, hconf⟩)
  · rw [h.outcomes] at hreported
    rcases List.mem_append.mp hreported with hearlier | hlast
    · exact hsafe.reported reported hearlier
    · rw [List.mem_singleton.mp hlast]
      obtain ⟨result, hresult, hdecision⟩ := h.serviceResult
      exact ⟨by rw [h.safetyValid, hvalid], result, hresult, by rw [hdecision, hcommitted]⟩

/-- **Collision freedom of the closed loop.** Whatever CP-SAT answers: when the initial footprints
are apart, the footprints of all robots are apart at every tick, every tick is reported safe and
committed, and the movements between two ticks are apart. The stored states describe where all
robots are, and a robot moves to the next pose that the engine derives from its stored state.

**Proof sketch.** The invariant says that the stored states describe the robots and that their
footprints are apart. A committed tick keeps the envelopes of the returned actions apart, and a
movement stays inside the envelope of its action (`LoopTick.safe`). -/
theorem loop_collisionFree (hcover : geometry.Covering) (hwrap : wrappedAngle 0 = 0)
    (hinitial : ∀ robot ∈ scenario.robots, ∀ other ∈ scenario.robots,
      robot.deviceId ≠ other.deviceId →
        geometry.Apart (geometry.pauseEnvelope robot.deviceId robot.initialPose)
          (geometry.pauseEnvelope other.deviceId other.initialPose))
    {s : LoopState} (hreach : (loopMachine wrappedAngle config geometry.toGeometry cpSat runId
      startEpochMs scenario tickLimit).Reachable s) :
    LoopSafe geometry s ∧ (1 ≤ s.ticksRun → ∀ robot ∈ s.robots, ∃ stored,
      s.stored.lookup robot.robotId = some stored ∧
      stored.val.state.currentPose = robot.pose ∧
      ∀ moved, robot.advanceForTick (s.ticksRun + 1 : ℕ) = .ok moved →
        moved.nodesAdvanced ≠ robot.nodesAdvanced →
        deriveNextPose wrappedAngle stored.val.state config.poseTolerance =
          .ok (moved.pose, false)) := by
  refine ⟨?_, fun hpos robot hrobot => ?_⟩
  · refine hreach.invariant ?_ fun s s' hs hsafe hstep => ?_
    · rintro _ ⟨robots, hrobots, rfl⟩
      exact .initial hrobots hinitial
    · obtain ⟨-, fleet, decision, outcome, htick⟩ := loopTick_of_step hs hstep
      exact htick.safe (loopInvariant hs) hcover hwrap hsafe
  · obtain ⟨stored, hlookup, hdescribed⟩ := (loopInvariant hreach).described hpos robot hrobot
    refine ⟨stored, hlookup, hdescribed.currentPose, fun moved hadvance hne => ?_⟩
    rcases SimulatedRobot.advanceForTick_eq_ok hadvance with ⟨-, -, hadvanced⟩ | ⟨-, rfl⟩
    · obtain ⟨rest, hpath⟩ := hadvanced.path
      exact hdescribed.nextPose hwrap config.poseTolerance_pos.le hpath
    · exact absurd rfl hne

end Loop

/-! ## Robots on a line -/

/-- Robots of radius one half on a line, by their poses. -/
def linePoses : PoseGeometry (ℚ × ℚ) where
  pauseEnvelope := fun _ pose => .ok (pose.x - 1 / 2, pose.x + 1 / 2)
  resumeEnvelope := fun _ start next =>
    .ok (min start.x next.x - 1 / 2, max start.x next.x + 1 / 2)
  geometriesConflict := lineGeometry.geometriesConflict
  bounds := lineGeometry.bounds
  wkt := lineGeometry.wkt

/-- An interval between two positions covers both of them. -/
lemma linePoses_covering : linePoses.Covering where
  symm := fun e f h => by simpa [linePoses, lineGeometry, and_comm] using h
  covers := by
    intro r start next sweep hsweep pose hpose foot hfoot other hconf
    obtain rfl := Except.ok.inj hsweep
    obtain rfl := Except.ok.inj hfoot
    obtain ⟨hmin, hmax⟩ : min start.x next.x ≤ pose.x ∧ pose.x ≤ max start.x next.x := by
      rcases List.mem_pair.mp hpose with rfl | rfl
      · exact ⟨min_le_left _ _, le_max_left _ _⟩
      · exact ⟨min_le_right _ _, le_max_right _ _⟩
    simp only [linePoses, lineGeometry, Bool.and_eq_true, decide_eq_true_eq] at hconf ⊢
    exact ⟨by linarith [hconf.1], by linarith [hconf.2]⟩

/-- The robots that follow each other reach their goals without a collision. -/
theorem loop_collisionFree_following : ∃ s : LoopState,
    (loopMachine id defaultConfig linePoses.toGeometry (fun _ => none) "run" 0 followingScenario
      5).Reachable s ∧ 1 ≤ s.ticksRun ∧ s.finished = true ∧ LoopSafe linePoses s := by
  obtain ⟨result, hrun, hticks, hcompleted⟩ := Returns.exists_ok
    (x := runInMemoryScenario id defaultConfig linePoses.toGeometry (fun _ => none) "run"
      followingScenario 0 (some 5))
    (Q := fun result => 1 ≤ result.ticks ∧ result.completed = true) (by decide +kernel)
  obtain ⟨-, s, hreach, -, rfl⟩ := runScenario_reachable hrun
  refine ⟨s, hreach, hticks, hcompleted, (loop_collisionFree linePoses_covering rfl ?_ hreach).1⟩
  intro robot hrobot other hother hne
  simp only [followingScenario, List.mem_cons, List.not_mem_nil, or_false] at hrobot hother
  rcases hrobot with rfl | rfl <;> rcases hother with rfl | rfl
  · exact absurd rfl hne
  · exact ⟨_, _, rfl, rfl, by decide +kernel⟩
  · exact ⟨_, _, rfl, rfl, by decide +kernel⟩
  · exact absurd rfl hne

end CollisionMonitor
