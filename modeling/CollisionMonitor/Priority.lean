import CollisionMonitor.ConflictSpec

set_option relaxedAutoImplicit false
set_option autoImplicit false

/-!
# Priority scores

The integer priority of each robot of a component (`priority.py`), with the checks that its value
objects make on construction.

## Main definitions

* `PriorityBounds`, `PriorityBreakdown` — the checked bounds and the checked terms of one robot.
* `deadlineUrgency`, `clearanceOpportunityCount` — the terms that are computed.
* `scoreRobotPriority`, `scoreComponentPriorities` — the scores of a robot and of a component.

## Main results

* `clearanceOpportunityCount_le` — a robot clears at most as many edges as it has companions.
* `scoreRobotPriority_total` — no bound is exceeded, so scoring a robot never raises.
* `scoreComponentPriorities_total` — every robot of the component gets a score of its own.
-/

namespace CollisionMonitor

open Outcome

/-- The fields of `PriorityBounds`. -/
structure PriorityBoundFields where
  componentSize : ℤ
  maximumSecondaryPerRobot : ℤ
  maximumComponentSecondary : ℤ
  throughputReward : ℤ

/-- The checks of `PriorityBounds.__post_init__`. -/
def PriorityBoundFields.postInit (bounds : PriorityBoundFields) : Except PyException Unit := do
  raiseIf (bounds.componentSize < 1) (.valueError "component_size must be at least one")
  raiseIf (bounds.maximumSecondaryPerRobot < 0)
    (.valueError "maximum_secondary_per_robot must not be negative")
  raiseIf (bounds.maximumComponentSecondary < 0)
    (.valueError "maximum_component_secondary must not be negative")
  raiseIf (bounds.throughputReward ≤ bounds.maximumComponentSecondary)
    (.valueError "throughput_reward must exceed the component secondary-score bound")

/-- Safe bounds used to encode throughput before secondary priority. -/
abbrev PriorityBounds := Validated PriorityBoundFields.postInit

/-- The fields of `PriorityBreakdown`. -/
structure PriorityTerms where
  robotId : RobotId
  baseProgressValue : ℤ
  loadedBonus : ℤ
  deadlineUrgency : ℤ
  lowBatteryUrgency : ℤ
  waitingAgeBonus : ℤ
  activeGrantContinuationBonus : ℤ
  clearanceBonus : ℤ
  clearanceConflictCount : ℤ
  remainingSlackMs : ℤ
  secondaryScore : ℤ
  throughputReward : ℤ
  finalScore : ℤ
  deriving DecidableEq

namespace PriorityTerms

/-- The integer terms, in field order. -/
def terms (p : PriorityTerms) : List ℤ :=
  [p.baseProgressValue, p.loadedBonus, p.deadlineUrgency, p.lowBatteryUrgency, p.waitingAgeBonus,
    p.activeGrantContinuationBonus, p.clearanceBonus, p.clearanceConflictCount,
    p.remainingSlackMs, p.secondaryScore, p.throughputReward, p.finalScore]

/-- The sum that the secondary score must equal. -/
def expectedSecondary (p : PriorityTerms) : ℤ :=
  p.baseProgressValue + p.loadedBonus + p.deadlineUrgency + p.lowBatteryUrgency
    + p.waitingAgeBonus + p.activeGrantContinuationBonus + p.clearanceBonus

/-- The checks of `PriorityBreakdown.__post_init__`. -/
def postInit (p : PriorityTerms) : Except PyException Unit := do
  raiseIf (∃ term ∈ p.terms, term < 0) (.valueError "priority terms must be non-negative integers")
  raiseIf (p.secondaryScore ≠ p.expectedSecondary)
    (.valueError "secondary_score does not equal its priority terms")
  raiseIf (p.finalScore ≠ p.throughputReward + p.secondaryScore)
    (.valueError "final_score does not equal throughput plus secondary priority")

/-- Terms are accepted iff none is negative and both sums are right. -/
lemma postInit_eq_ok {p : PriorityTerms} : p.postInit = .ok () ↔
    (∀ term ∈ p.terms, 0 ≤ term) ∧ p.secondaryScore = p.expectedSecondary ∧
      p.finalScore = p.throughputReward + p.secondaryScore := by
  simp [postInit, bind_eq_ok]

end PriorityTerms

/-- Integer objective terms for one robot's Resume variable. -/
abbrev PriorityBreakdown := Validated PriorityTerms.postInit

section Score

variable (config : MonitorConfig)

/-- A conservative bound proving lexicographic throughput priority. -/
def priorityBounds (componentSize : ℤ) : Except PyException PriorityBounds := do
  raiseIf (componentSize < 1) (.valueError "component_size must be at least one")
  let maximumClearance := (componentSize - 1) * config.priorityClearanceBonusPerConflict
  let maximumPerRobot := config.priorityBaseProgressValue + config.priorityLoadedBonus
    + config.priorityDeadlineUrgencyMaximum + config.priorityLowBatteryUrgencyBonus
    + config.priorityWaitingAgeCapTicks * config.priorityWaitingAgeBonusPerTick
    + config.priorityActiveGrantContinuationBonus + maximumClearance
  let maximumComponent := componentSize * maximumPerRobot
  validate PriorityBoundFields.postInit {
    componentSize
    maximumSecondaryPerRobot := maximumPerRobot
    maximumComponentSecondary := maximumComponent
    throughputReward := maximumComponent + 1 }

/-- Bounded urgency and non-negative remaining deadline slack. -/
def deadlineUrgency (deadlineMs nowMs : ℤ) : Except PyException (ℤ × ℤ) := do
  raiseIf (nowMs < 0) (.valueError "now_ms must not be negative")
  let slackMs := max (deadlineMs - nowMs) 0
  let boundedSlack := min slackMs config.priorityDeadlineHorizonMs
  let urgency := (config.priorityDeadlineUrgencyMaximum
    * (config.priorityDeadlineHorizonMs - boundedSlack)).fdiv config.priorityDeadlineHorizonMs
  return (urgency, slackMs)

/-- The pair is a conflict edge on which this robot can safely move alone. -/
def canClear (robotId : RobotId) (pair : PairwiseCompatibility) : Bool :=
  if pair.forbiddenAssignments.isEmpty then false
  else if robotId = pair.robotI then pair.isSafe .resume .pause
  else if robotId = pair.robotJ then pair.isSafe .pause .resume
  else false

/-- Count incident conflict edges on which this robot can safely move alone. -/
def clearanceOpportunityCount (robotId : RobotId)
    (pairwiseConstraints : List PairwiseCompatibility) : ℕ :=
  pairwiseConstraints.countP (canClear robotId)

/-- A deterministic integer priority breakdown for one robot. -/
def scoreRobotPriority (snapshot : RobotSnapshot)
    (pairwiseConstraints : List PairwiseCompatibility) (nowMs waitingAgeTicks : ℤ)
    (activeGrant : Bool) (componentSize : ℤ) : Except PyException PriorityBreakdown := do
  raiseIf (waitingAgeTicks < 0)
    (.valueError "waiting_age_ticks must be a non-negative integer")
  let bounds ← priorityBounds config componentSize
  let (urgency, slackMs) ← deadlineUrgency config snapshot.state.deadline nowMs
  let loadedBonus := if snapshot.state.loaded then config.priorityLoadedBonus else 0
  let lowBatteryUrgency :=
    if snapshot.state.batteryLevel < config.priorityLowBatteryThreshold then
      config.priorityLowBatteryUrgencyBonus else 0
  let cappedWaitingAge := min waitingAgeTicks config.priorityWaitingAgeCapTicks
  let waitingAgeBonus := cappedWaitingAge * config.priorityWaitingAgeBonusPerTick
  let grantBonus := if activeGrant then config.priorityActiveGrantContinuationBonus else 0
  let clearanceCount : ℤ := clearanceOpportunityCount snapshot.deviceId pairwiseConstraints
  raiseIf (clearanceCount > componentSize - 1)
    (.valueError "clearance conflict count exceeds the supplied component-size bound")
  let clearanceBonus := clearanceCount * config.priorityClearanceBonusPerConflict
  let secondaryScore := config.priorityBaseProgressValue + loadedBonus + urgency
    + lowBatteryUrgency + waitingAgeBonus + grantBonus + clearanceBonus
  raiseIf (secondaryScore > bounds.val.maximumSecondaryPerRobot)
    (.valueError "secondary score exceeds its calculated safe upper bound")
  validate PriorityTerms.postInit {
    robotId := snapshot.deviceId
    baseProgressValue := config.priorityBaseProgressValue
    loadedBonus
    deadlineUrgency := urgency
    lowBatteryUrgency
    waitingAgeBonus
    activeGrantContinuationBonus := grantBonus
    clearanceBonus
    clearanceConflictCount := clearanceCount
    remainingSlackMs := slackMs
    secondaryScore
    throughputReward := bounds.val.throughputReward
    finalScore := bounds.val.throughputReward + secondaryScore }

/-- Score a whole component from explicit tick-local and persistent state. -/
def scoreComponentPriorities (component : List RobotId) (conflictModel : ConflictModel)
    (nowMs : ℤ) (waitingAges : Dict RobotId ℤ) (activeGrants : List RobotId) :
    Except PyException (Dict RobotId PriorityBreakdown) := do
  let orderedComponent := sorted component
  raiseIf (orderedComponent = []) (.valueError "component must contain at least one robot")
  raiseIf (¬ orderedComponent.Nodup) (.valueError "component contains duplicate robot IDs")
  let missingSnapshots := orderedComponent.filter (· ∉ conflictModel.snapshots)
  raiseIf (missingSnapshots ≠ [])
    (.valueError ("component contains unknown robots: " ++ pyReprList missingSnapshots))
  let missingWaitAges := orderedComponent.filter (· ∉ waitingAges)
  raiseIf (missingWaitAges ≠ [])
    (.valueError ("waiting ages are missing for robots: " ++ pyReprList missingWaitAges))
  Dict.collect id (fun robotId => do
    scoreRobotPriority config (← item conflictModel.snapshots robotId)
      (componentConstraints component conflictModel) nowMs (← item waitingAges robotId)
      (decide (robotId ∈ activeGrants)) orderedComponent.length) orderedComponent

end Score

/-! ## Scoring never raises -/

section Total

variable {config : MonitorConfig}

/-- The two robots of a pair, the other one than `r`. -/
def companion (r : RobotId) (pair : PairwiseCompatibility) : RobotId :=
  if r = pair.robotI then pair.robotJ else pair.robotI

/-- A robot can only clear a pair that it belongs to. -/
lemma endpoint_of_canClear {r : RobotId} {pair : PairwiseCompatibility}
    (h : canClear r pair = true) : r = pair.robotI ∨ r = pair.robotJ := by
  unfold canClear at h
  split_ifs at h with _ hI hJ
  · exact .inl hI
  · exact .inr hJ

/-- Constraints with distinct pairs are told apart by the companion of a common robot. -/
lemma eq_of_companion_eq {constraints : List PairwiseCompatibility}
    (hnd : (constraints.map PairwiseCompatibility.robotPair).Nodup) {r : RobotId}
    {p q : PairwiseCompatibility} (hp : p ∈ constraints) (hq : q ∈ constraints)
    (hrp : r = p.robotI ∨ r = p.robotJ) (hrq : r = q.robotI ∨ r = q.robotJ)
    (h : companion r p = companion r q) : p = q := by
  refine List.inj_on_of_nodup_map hnd hp hq ?_
  have hpo := p.ordered
  have hqo := q.ordered
  unfold companion at h
  unfold PairwiseCompatibility.robotPair
  rcases hrp with hrp | hrp <;> rcases hrq with hrq | hrq
  · rw [if_pos hrp, if_pos hrq] at h
    rw [← hrp, ← hrq, h]
  · rw [if_pos hrp, if_neg (hrq ▸ hqo.ne')] at h
    rw [← hrp] at hpo
    rw [← hrq, ← h] at hqo
    exact absurd hpo (lt_asymm hqo)
  · rw [if_neg (hrp ▸ hpo.ne'), if_pos hrq] at h
    rw [← hrq] at hqo
    rw [← hrp, h] at hpo
    exact absurd hpo (lt_asymm hqo)
  · rw [if_neg (hrp ▸ hpo.ne'), if_neg (hrq ▸ hqo.ne')] at h
    rw [← hrp, ← hrq, h]

/-- **A robot clears at most one edge per companion**, so at most `|component| - 1`. -/
theorem clearanceOpportunityCount_le {m : ConflictModel}
    (hnd : (m.pairwiseConstraints.map PairwiseCompatibility.robotPair).Nodup)
    {component : List RobotId} {r : RobotId} (hr : r ∈ component) :
    clearanceOpportunityCount r (componentConstraints component m) ≤ component.length - 1 := by
  set cleared := (componentConstraints component m).filter (canClear r) with hcleared
  have hmem : ∀ p ∈ cleared, p ∈ m.pairwiseConstraints ∧ (r = p.robotI ∨ r = p.robotJ) ∧
      p.robotI ∈ component ∧ p.robotJ ∈ component := by
    intro p hp
    obtain ⟨hpc, hclear⟩ := List.mem_filter.mp hp
    obtain ⟨hpm, hI, hJ⟩ := mem_componentConstraints.mp hpc
    exact ⟨hpm, endpoint_of_canClear hclear, hI, hJ⟩
  have hndc : cleared.Nodup :=
    (((List.Nodup.of_map _ hnd).filter _).filter _)
  have hndo : (cleared.map (companion r)).Nodup := by
    refine List.Nodup.map_on (fun p hp q hq h => ?_) hndc
    exact eq_of_companion_eq hnd (hmem p hp).1 (hmem q hq).1 (hmem p hp).2.1 (hmem q hq).2.1 h
  have hsub : cleared.map (companion r) ⊆ component.erase r := by
    intro s hs
    obtain ⟨p, hp, rfl⟩ := List.mem_map.mp hs
    obtain ⟨-, hrp, hI, hJ⟩ := hmem p hp
    unfold companion
    split_ifs with h
    · exact (List.mem_erase_of_ne (h ▸ p.robotI_ne_robotJ.symm)).mpr hJ
    · exact (List.mem_erase_of_ne (Ne.symm h)).mpr hI
  have hlen := (hndo.subperm hsub).length_le
  rw [List.length_map, List.length_erase_of_mem hr] at hlen
  rwa [clearanceOpportunityCount, List.countP_eq_length_filter]

/-- Urgency is non-negative and at most its maximum. -/
lemma deadlineUrgency_spec (config : MonitorConfig) (deadlineMs : ℤ) {nowMs : ℤ}
    (hnow : 0 ≤ nowMs) :
    ∃ urgency slackMs, deadlineUrgency config deadlineMs nowMs = .ok (urgency, slackMs) ∧
      0 ≤ urgency ∧ urgency ≤ config.priorityDeadlineUrgencyMaximum ∧ 0 ≤ slackMs := by
  have hmax : 0 ≤ config.priorityDeadlineUrgencyMaximum :=
    config.nonNegative_of_mem "priority_deadline_urgency_maximum"
      (by simp [ConfigFields.nonNegativeIntegerValues])
  have hhor := config.priorityDeadlineHorizonMs_pos
  refine ⟨_, _, by rw [deadlineUrgency, raiseIf_of_not _ (not_lt.mpr hnow)]; rfl, ?_, ?_,
    le_max_right _ _⟩
  · rw [Int.fdiv_eq_ediv_of_nonneg _ hhor.le]
    refine Int.ediv_nonneg (mul_nonneg hmax ?_) hhor.le
    exact sub_nonneg.mpr (min_le_right _ _)
  · rw [Int.fdiv_eq_ediv_of_nonneg _ hhor.le]
    refine Int.ediv_le_of_le_mul hhor (mul_le_mul_of_nonneg_left ?_ hmax)
    exact sub_le_self _ (le_min (le_max_right _ _) hhor.le)

/-- The eight integer settings of a priority are not negative, in source order. -/
lemma nonNegative_settings (config : MonitorConfig) :
    0 ≤ config.priorityBaseProgressValue ∧ 0 ≤ config.priorityLoadedBonus ∧
      0 ≤ config.priorityDeadlineUrgencyMaximum ∧ 0 ≤ config.priorityLowBatteryUrgencyBonus ∧
      0 ≤ config.priorityWaitingAgeBonusPerTick ∧ 0 ≤ config.priorityWaitingAgeCapTicks ∧
      0 ≤ config.priorityActiveGrantContinuationBonus ∧
      0 ≤ config.priorityClearanceBonusPerConflict := by
  have h : ∀ p ∈ config.nonNegativeIntegerValues, 0 ≤ p.2 := fun p hp =>
    config.nonNegative_of_mem p.1 hp
  simpa [ConfigFields.nonNegativeIntegerValues] using h

/-- The bounds of a non-empty component are accepted. -/
lemma priorityBounds_total (config : MonitorConfig) {componentSize : ℤ}
    (hsize : 1 ≤ componentSize) :
    ∃ bounds, priorityBounds config componentSize = .ok bounds ∧
      1 ≤ bounds.val.throughputReward ∧
      bounds.val.maximumSecondaryPerRobot = config.priorityBaseProgressValue
        + config.priorityLoadedBonus + config.priorityDeadlineUrgencyMaximum
        + config.priorityLowBatteryUrgencyBonus
        + config.priorityWaitingAgeCapTicks * config.priorityWaitingAgeBonusPerTick
        + config.priorityActiveGrantContinuationBonus
        + (componentSize - 1) * config.priorityClearanceBonusPerConflict := by
  obtain ⟨hbase, hloaded, hdeadline, hbattery, hwait, hcap, hgrant, hclear⟩ :=
    nonNegative_settings config
  have hwaiting := mul_nonneg hcap hwait
  have hclearing := mul_nonneg (by omega : 0 ≤ componentSize - 1) hclear
  unfold priorityBounds
  rw [raiseIf_of_not _ (by omega), ok_bind]
  dsimp only
  set perRobot := config.priorityBaseProgressValue + config.priorityLoadedBonus
    + config.priorityDeadlineUrgencyMaximum + config.priorityLowBatteryUrgencyBonus
    + config.priorityWaitingAgeCapTicks * config.priorityWaitingAgeBonusPerTick
    + config.priorityActiveGrantContinuationBonus
    + (componentSize - 1) * config.priorityClearanceBonusPerConflict with hperRobot
  have hper : 0 ≤ perRobot := by omega
  have htotal : 0 ≤ componentSize * perRobot := mul_nonneg (by omega) hper
  rw [validate_of_accepted]
  · exact ⟨_, rfl, by dsimp only; omega, rfl⟩
  · unfold PriorityBoundFields.postInit
    dsimp only
    rw [raiseIf_of_not _ (by omega), ok_bind, raiseIf_of_not _ (by omega), ok_bind,
      raiseIf_of_not _ (by omega), ok_bind, raiseIf_of_not _ (by omega)]

/-- A flag's bonus lies between nothing and the whole bonus. -/
lemma bonus_bounds {bonus : ℤ} (p : Prop) [Decidable p] (h : 0 ≤ bonus) :
    0 ≤ (if p then bonus else 0) ∧ (if p then bonus else 0) ≤ bonus := by
  split_ifs <;> omega

/-- **Scoring a robot never raises**: neither its clearance count nor its secondary score exceeds
the bound derived from the component size.

**Proof sketch.** Each term of the secondary score lies between zero and its bonus, so the sum is at
most the bound, which is less than the reward for throughput. -/
theorem scoreRobotPriority_total (config : MonitorConfig) {snapshot : RobotSnapshot}
    {constraints : List PairwiseCompatibility} {nowMs waitingAge componentSize : ℤ}
    (activeGrant : Bool) (hnow : 0 ≤ nowMs) (hage : 0 ≤ waitingAge)
    (hcount : (clearanceOpportunityCount snapshot.deviceId constraints : ℤ) ≤ componentSize - 1) :
    ∃ score, scoreRobotPriority config snapshot constraints nowMs waitingAge activeGrant
      componentSize = .ok score ∧ score.val.robotId = snapshot.deviceId ∧
        1 ≤ score.val.finalScore := by
  obtain ⟨hbase, hloaded, hdeadline, hbattery, hwait, hcap, hgrant, hclear⟩ :=
    nonNegative_settings config
  obtain ⟨bounds, hbounds, hreward, hmax⟩ :=
    priorityBounds_total config (by omega : 1 ≤ componentSize)
  obtain ⟨urgency, slackMs, hurgency, hurg0, hurg1, hslack⟩ :=
    deadlineUrgency_spec config snapshot.state.deadline hnow
  have hload := bonus_bounds (snapshot.state.loaded = true) hloaded
  have hbat := bonus_bounds
    (snapshot.state.batteryLevel < config.priorityLowBatteryThreshold) hbattery
  have hact := bonus_bounds (activeGrant = true) hgrant
  have hwaiting : 0 ≤ min waitingAge config.priorityWaitingAgeCapTicks
      * config.priorityWaitingAgeBonusPerTick := mul_nonneg (le_min hage hcap) hwait
  have hwaitingMax : min waitingAge config.priorityWaitingAgeCapTicks
      * config.priorityWaitingAgeBonusPerTick ≤ config.priorityWaitingAgeCapTicks
        * config.priorityWaitingAgeBonusPerTick :=
    mul_le_mul_of_nonneg_right (min_le_right _ _) hwait
  have hclearing := mul_nonneg
    (Int.natCast_nonneg (clearanceOpportunityCount snapshot.deviceId constraints)) hclear
  have hclearingMax := mul_le_mul_of_nonneg_right hcount hclear
  unfold scoreRobotPriority
  rw [raiseIf_of_not _ (not_lt.mpr hage), ok_bind, hbounds, ok_bind, hurgency, ok_bind]
  dsimp only
  rw [raiseIf_of_not _ (not_lt.mpr hcount), ok_bind, raiseIf_of_not _ (by omega), ok_bind,
    validate_of_accepted]
  · exact ⟨_, rfl, rfl, by dsimp only; omega⟩
  · refine PriorityTerms.postInit_eq_ok.mpr ⟨?_, rfl, rfl⟩
    simp only [PriorityTerms.terms, List.forall_mem_cons, List.not_mem_nil, false_imp_iff,
      implies_true, and_true]
    refine ⟨hbase, hload.1, hurg0, hbat.1, hwaiting, hact.1, hclearing, by omega, hslack, ?_,
      by omega, ?_⟩ <;> omega

/-- The throughput reward exceeds the secondary scores of a whole component by one. -/
lemma throughputReward_of_priorityBounds {componentSize : ℤ} {bounds : PriorityBounds}
    (h : priorityBounds config componentSize = .ok bounds) :
    bounds.val.throughputReward = componentSize * bounds.val.maximumSecondaryPerRobot + 1 := by
  obtain ⟨_, -, h⟩ := bind_eq_ok.mp h
  rw [val_of_validate h]

/-- A score that was returned is non-negative, within the bounds, and adds up. -/
lemma scoreRobotPriority_bounds {snapshot : RobotSnapshot}
    {constraints : List PairwiseCompatibility} {nowMs waitingAge componentSize : ℤ}
    {activeGrant : Bool} {score : PriorityBreakdown}
    (h : scoreRobotPriority config snapshot constraints nowMs waitingAge activeGrant
      componentSize = .ok score) {bounds : PriorityBounds}
    (hbounds : priorityBounds config componentSize = .ok bounds) :
    0 ≤ score.val.secondaryScore ∧
      score.val.secondaryScore ≤ bounds.val.maximumSecondaryPerRobot ∧
      score.val.finalScore = bounds.val.throughputReward + score.val.secondaryScore := by
  have hpos : 0 ≤ score.val.secondaryScore :=
    (PriorityTerms.postInit_eq_ok.mp score.property).1 _ (by simp [PriorityTerms.terms])
  obtain ⟨_, -, h⟩ := bind_eq_ok.mp h
  obtain ⟨bounds', hbounds', h⟩ := bind_eq_ok.mp h
  obtain rfl := Except.ok.inj (hbounds.symm.trans hbounds')
  obtain ⟨⟨urgency, slackMs⟩, -, h⟩ := bind_eq_ok.mp h
  obtain ⟨_, -, h⟩ := bind_eq_ok.mp h
  obtain ⟨_, hmax, h⟩ := bind_eq_ok.mp h
  have hval := val_of_validate h
  refine ⟨hpos, ?_, by rw [hval]⟩
  rw [hval]
  exact not_lt.mp (raiseIf_eq_ok.mp hmax)

/-- The scores of a component share one reward, which exceeds all its secondary scores. -/
lemma scoreComponentPriorities_bounds {component : List RobotId} {m : ConflictModel} {nowMs : ℤ}
    {waitingAges : Dict RobotId ℤ} {activeGrants : List RobotId}
    {scores : Dict RobotId PriorityBreakdown}
    (h : scoreComponentPriorities config component m nowMs waitingAges activeGrants =
      .ok scores) : component.Nodup ∧ ∃ cap, ∀ r ∈ component, ∃ p, scores.lookup r = some p ∧
        0 ≤ p.val.secondaryScore ∧ p.val.secondaryScore ≤ cap ∧
        p.val.finalScore = component.length * cap + 1 + p.val.secondaryScore := by
  obtain ⟨_, hne, h⟩ := bind_eq_ok.mp h
  obtain ⟨_, hnd, h⟩ := bind_eq_ok.mp h
  obtain ⟨_, -, h⟩ := bind_eq_ok.mp h
  obtain ⟨_, -, h⟩ := bind_eq_ok.mp h
  have hlen : (sorted component).length = component.length := (sorted_perm component).length_eq
  have hpos : 1 ≤ (sorted component).length :=
    List.length_pos_iff.mpr (raiseIf_eq_ok.mp hne)
  obtain ⟨bounds, hbounds, -⟩ := priorityBounds_total config (by exact_mod_cast hpos :
    1 ≤ ((sorted component).length : ℤ))
  have hreward := throughputReward_of_priorityBounds hbounds
  rw [hlen] at hreward
  refine ⟨sorted_nodup.mp (not_not.mp (raiseIf_eq_ok.mp hnd)),
    bounds.val.maximumSecondaryPerRobot, fun r hr => ?_⟩
  obtain ⟨p, hp, hlook⟩ := Dict.lookup_collect_id h (mem_sorted.mpr hr)
  obtain ⟨s, -, hp⟩ := bind_eq_ok.mp hp
  obtain ⟨age, -, hp⟩ := bind_eq_ok.mp hp
  obtain ⟨h0, hle, hfinal⟩ := scoreRobotPriority_bounds hp hbounds
  exact ⟨p, hlook, h0, hle, by rw [hfinal, hreward]⟩

/-- **Scoring a component never raises.** For a duplicate-free list of observed robots with
non-negative waiting ages every robot gets a score under its own ID.

**Proof sketch.** The guards pass by hypothesis. A robot has at most as many clearance opportunities
as the component has other robots (`clearanceOpportunityCount_le`), so its score is within the
bounds that the breakdown checks. -/
theorem scoreComponentPriorities_total (config : MonitorConfig) {component : List RobotId}
    {m : ConflictModel}
    (hpairs : (m.pairwiseConstraints.map PairwiseCompatibility.robotPair).Nodup)
    (hids : ∀ r s, m.snapshots.lookup r = some s → s.deviceId = r)
    {nowMs : ℤ} (hnow : 0 ≤ nowMs) {waitingAges : Dict RobotId ℤ} (activeGrants : List RobotId)
    (hne : component ≠ []) (hnd : component.Nodup)
    (hsnap : ∀ r ∈ component, r ∈ m.snapshots)
    (hage : ∀ r ∈ component, ∃ age, waitingAges.lookup r = some age ∧ 0 ≤ age) :
    ∃ scores, scoreComponentPriorities config component m nowMs waitingAges activeGrants =
        .ok scores ∧ (∀ r, r ∈ scores ↔ r ∈ component) ∧
      ∀ r p, scores.lookup r = some p → p.val.robotId = r ∧ 1 ≤ p.val.finalScore := by
  have hmem : ∀ r, r ∈ sorted component ↔ r ∈ component := fun r => mem_sorted
  have hscore : ∀ r ∈ sorted component, ∃ score, (do
      scoreRobotPriority config (← item m.snapshots r) (componentConstraints component m) nowMs
        (← item waitingAges r) (decide (r ∈ activeGrants)) (sorted component).length) =
          .ok score ∧ score.val.robotId = r ∧ 1 ≤ score.val.finalScore := by
    intro r hr
    rw [hmem] at hr
    obtain ⟨s, hs⟩ := Dict.exists_lookup (hsnap r hr)
    obtain ⟨age, hlook, hage0⟩ := hage r hr
    have hid := hids r s hs
    have hcount := clearanceOpportunityCount_le hpairs hr
    have hpos := List.length_pos_of_mem hr
    obtain ⟨score, hok, hrob, hfinal⟩ := scoreRobotPriority_total config
      (decide (r ∈ activeGrants)) hnow hage0 (by
        rw [hid, (sorted_perm component).length_eq]
        omega : (clearanceOpportunityCount s.deviceId (componentConstraints component m) : ℤ) ≤
          (sorted component).length - 1)
    refine ⟨score, ?_, hrob.trans hid, hfinal⟩
    rw [item_eq_ok.mpr hs, ok_bind, item_eq_ok.mpr hlook, ok_bind, hok]
  obtain ⟨scores, hscores⟩ := Dict.collect_total id _ _ fun r hr =>
    (hscore r hr).imp fun _ h => h.1
  refine ⟨scores, ?_, fun r => ?_, fun r p hp => ?_⟩
  · unfold scoreComponentPriorities
    dsimp only
    rw [raiseIf_of_not _ (by rwa [sorted_eq_nil]), ok_bind,
      raiseIf_of_not _ (by rwa [not_not, sorted_nodup]), ok_bind,
      raiseIf_of_not _ (by simpa using hsnap), ok_bind, raiseIf_of_not _ ?_, ok_bind, hscores]
    simp only [ne_eq, not_not, List.filter_eq_nil_iff, hmem, decide_eq_true_eq]
    intro r hr
    obtain ⟨age, hlook, -⟩ := hage r hr
    exact Dict.mem_of_lookup hlook
  · rw [Dict.mem_collect hscores]
    simp
  · obtain ⟨r', hr', rfl, hok⟩ := Dict.exists_of_lookup_collect hscores hp
    obtain ⟨score, hok', hrob⟩ := hscore r' hr'
    rw [hok] at hok'
    rw [Except.ok.inj hok']
    exact hrob

end Total

end CollisionMonitor
