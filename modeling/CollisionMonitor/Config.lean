import CollisionMonitor.Models

set_option relaxedAutoImplicit false
set_option autoImplicit false

/-!
# Monitor configuration

The safety, timing, optimisation, grant and priority settings of `config.py`, and the settings
that its `__post_init__` accepts. The logging and broker texts, which no decision reads, are left
out. Floating-point settings are exact rationals, so the finiteness checks hold by type.

## Main definitions

* `ConfigFields`, `ConfigFields.postInit` — the settings and the checks made on them.
* `MonitorConfig` — settings that pass every check.
* `MonitorConfig.staleLimitMs` — the receive age from which a state is stale.
-/

namespace CollisionMonitor

open Outcome

/-- The settings before validation, with the defaults of the source. -/
structure ConfigFields where
  robotWidthMetres : ℚ := 630 / 1000
  robotLengthMetres : ℚ := 1430 / 1000
  safetyMarginMetres : ℚ := 50 / 1000
  poseTolerance : ℚ := 1 / 1000000
  tickIntervalSeconds : ℚ := 1
  staleTimeoutSeconds : ℚ := 3
  publicationMaximumAttempts : ℤ := 3
  publicationRetryDelaySeconds : ℚ := 50 / 1000
  traceDetailedGeometry : Bool := false
  rabbitmqPrefetchCount : ℤ := 1
  rabbitmqConnectionTimeoutSeconds : ℚ := 10
  healthcheckTimeoutSeconds : ℚ := 2
  rabbitmqReconnectInitialDelaySeconds : ℚ := 1
  rabbitmqReconnectMaxDelaySeconds : ℚ := 30
  cpSatTimeLimitSeconds : ℚ := 50 / 1000
  cpSatRandomSeed : ℤ := 0
  cpSatLogSearchProgress : Bool := false
  maximumExactComponentSize : ℤ := 20
  heuristicMaximumRepairCandidates : ℤ := 20
  grantMinimumHoldTicks : ℤ := 2
  grantMaximumHoldTicks : ℤ := 10
  grantClearanceReleaseTicks : ℤ := 2
  priorityBaseProgressValue : ℤ := 10
  priorityLoadedBonus : ℤ := 20
  priorityDeadlineUrgencyMaximum : ℤ := 100
  priorityDeadlineHorizonMs : ℤ := 300000
  priorityLowBatteryThreshold : ℚ := 20
  priorityLowBatteryUrgencyBonus : ℤ := 30
  priorityWaitingAgeBonusPerTick : ℤ := 5
  priorityWaitingAgeCapTicks : ℤ := 20
  priorityActiveGrantContinuationBonus : ℤ := 50
  priorityClearanceBonusPerConflict : ℤ := 25

namespace ConfigFields

/-- The settings that must be positive, by name. -/
def positiveValues (c : ConfigFields) : List (String × ℚ) :=
  [("robot_width_metres", c.robotWidthMetres),
   ("robot_length_metres", c.robotLengthMetres),
   ("pose_tolerance", c.poseTolerance),
   ("tick_interval_seconds", c.tickIntervalSeconds),
   ("stale_timeout_seconds", c.staleTimeoutSeconds),
   ("cp_sat_time_limit_seconds", c.cpSatTimeLimitSeconds),
   ("rabbitmq_connection_timeout_seconds", c.rabbitmqConnectionTimeoutSeconds),
   ("healthcheck_timeout_seconds", c.healthcheckTimeoutSeconds),
   ("rabbitmq_reconnect_initial_delay_seconds", c.rabbitmqReconnectInitialDelaySeconds),
   ("rabbitmq_reconnect_max_delay_seconds", c.rabbitmqReconnectMaxDelaySeconds)]

/-- The integer settings that must not be negative, by name. -/
def nonNegativeIntegerValues (c : ConfigFields) : List (String × ℤ) :=
  [("priority_base_progress_value", c.priorityBaseProgressValue),
   ("priority_loaded_bonus", c.priorityLoadedBonus),
   ("priority_deadline_urgency_maximum", c.priorityDeadlineUrgencyMaximum),
   ("priority_low_battery_urgency_bonus", c.priorityLowBatteryUrgencyBonus),
   ("priority_waiting_age_bonus_per_tick", c.priorityWaitingAgeBonusPerTick),
   ("priority_waiting_age_cap_ticks", c.priorityWaitingAgeCapTicks),
   ("priority_active_grant_continuation_bonus", c.priorityActiveGrantContinuationBonus),
   ("priority_clearance_bonus_per_conflict", c.priorityClearanceBonusPerConflict)]

/-- The checks of `__post_init__` in source order: what must hold, and the error otherwise. -/
def checks (c : ConfigFields) : List (Bool × String) :=
  (c.positiveValues.map fun (name, value) =>
    (decide (0 < value), name ++ " must be greater than zero")) ++
  [(decide (0 ≤ c.safetyMarginMetres), "safety_margin_metres must not be negative"),
   (decide (1 ≤ c.publicationMaximumAttempts),
    "publication_maximum_attempts must be a positive integer"),
   (decide (0 ≤ c.publicationRetryDelaySeconds),
    "publication_retry_delay_seconds must be finite and non-negative"),
   (decide (1 ≤ c.rabbitmqPrefetchCount), "rabbitmq_prefetch_count must be a positive integer"),
   (decide (c.rabbitmqReconnectInitialDelaySeconds ≤ c.rabbitmqReconnectMaxDelaySeconds),
    "rabbitmq_reconnect_max_delay_seconds must be at least the initial delay"),
   (decide (1 ≤ c.maximumExactComponentSize), "maximum_exact_component_size must be at least one"),
   (decide (1 ≤ c.heuristicMaximumRepairCandidates),
    "heuristic_maximum_repair_candidates must be a positive integer"),
   (decide (0 ≤ c.cpSatRandomSeed), "cp_sat_random_seed must be a non-negative integer"),
   (decide (0 ≤ c.grantMinimumHoldTicks), "grant_minimum_hold_ticks must not be negative"),
   (decide (c.grantMinimumHoldTicks ≤ c.grantMaximumHoldTicks),
    "grant_maximum_hold_ticks must be at least grant_minimum_hold_ticks"),
   (decide (1 ≤ c.grantClearanceReleaseTicks),
    "grant_clearance_release_ticks must be at least one")] ++
  (c.nonNegativeIntegerValues.map fun (name, value) =>
    (decide (0 ≤ value), name ++ " must be a non-negative integer")) ++
  [(decide (0 < c.priorityDeadlineHorizonMs),
    "priority_deadline_horizon_ms must be a positive integer"),
   (decide (0 < c.priorityLowBatteryThreshold ∧ c.priorityLowBatteryThreshold ≤ 100),
    "priority_low_battery_threshold must be in (0, 100]")]

/-- Reject values that cannot produce meaningful decisions, at the first failing check. -/
def postInit (c : ConfigFields) : Except PyException Unit :=
  c.checks.forM fun (ok, message) => raiseIf (ok = false) (.valueError message)

end ConfigFields

/-- Settings that pass every check of `__post_init__`. -/
structure MonitorConfig extends ConfigFields where
  accepted : toConfigFields.postInit = .ok ()

/-- Every check of an accepted configuration holds. -/
lemma ConfigFields.postInit_eq_ok {c : ConfigFields} :
    c.postInit = .ok () ↔ ∀ check ∈ c.checks, check.1 = true := by
  unfold postInit
  rw [forM_raiseIf_eq_ok]
  simp

/-- The settings with all defaults. -/
def defaultConfig : MonitorConfig := ⟨{}, by decide +kernel⟩

namespace MonitorConfig

variable (config : MonitorConfig)

/-- Every check of an accepted configuration holds. -/
lemma check_holds (b : Bool) (message : String) (h : (b, message) ∈ config.checks) : b = true :=
  ConfigFields.postInit_eq_ok.mp config.accepted _ h

/-- Every setting that has to be positive is. -/
lemma positive_of_mem (name : String) {value : ℚ} (h : (name, value) ∈ config.positiveValues) :
    0 < value := by
  have := config.check_holds (decide (0 < value)) (name ++ " must be greater than zero")
    (List.mem_append_left _ (List.mem_append_left _ (List.mem_append_left _
      (List.mem_map.mpr ⟨_, h, rfl⟩))))
  simpa using this

/-- Every integer setting that may not be negative is not. -/
lemma nonNegative_of_mem (name : String) {value : ℤ}
    (h : (name, value) ∈ config.nonNegativeIntegerValues) : 0 ≤ value := by
  have := config.check_holds (decide (0 ≤ value)) (name ++ " must be a non-negative integer")
    (List.mem_append_left _ (List.mem_append_right _ (List.mem_map.mpr ⟨_, h, rfl⟩)))
  simpa using this

/-- The tolerance of poses is positive. -/
lemma poseTolerance_pos : 0 < config.poseTolerance :=
  config.positive_of_mem "pose_tolerance" (by simp [ConfigFields.positiveValues])

/-- The safety margin is not negative. -/
lemma safetyMarginMetres_nonneg : 0 ≤ config.safetyMarginMetres := by
  have := config.check_holds (decide (0 ≤ config.safetyMarginMetres)) _
    (List.mem_append_left _ (List.mem_append_left _ (List.mem_append_right _ List.mem_cons_self)))
  simpa using this

/-- The horizon of the deadline priority is positive. -/
lemma priorityDeadlineHorizonMs_pos : 0 < config.priorityDeadlineHorizonMs := by
  have := config.check_holds (decide (0 < config.priorityDeadlineHorizonMs)) _
    (List.mem_append_right _ List.mem_cons_self)
  simpa using this

/-- A message is attempted at least once. -/
lemma one_le_publicationMaximumAttempts : 1 ≤ config.publicationMaximumAttempts := by
  have := config.check_holds (decide (1 ≤ config.publicationMaximumAttempts)) _
    (List.mem_append_left _ (List.mem_append_left _ (List.mem_append_right _
      (List.mem_cons_of_mem _ List.mem_cons_self))))
  simpa using this

/-- The first delay of a reconnection is positive. -/
lemma rabbitmqReconnectInitialDelaySeconds_pos : 0 < config.rabbitmqReconnectInitialDelaySeconds :=
  config.positive_of_mem "rabbitmq_reconnect_initial_delay_seconds"
    (by simp [ConfigFields.positiveValues])

/-- It is at most the longest delay. -/
lemma rabbitmqReconnectInitialDelaySeconds_le :
    config.rabbitmqReconnectInitialDelaySeconds ≤ config.rabbitmqReconnectMaxDelaySeconds := by
  have := config.check_holds (decide (config.rabbitmqReconnectInitialDelaySeconds ≤
    config.rabbitmqReconnectMaxDelaySeconds))
    "rabbitmq_reconnect_max_delay_seconds must be at least the initial delay"
    (List.mem_append_left _ (List.mem_append_left _ (List.mem_append_right _ (by simp))))
  simpa using this

/-- `int(stale_timeout_seconds * 1_000)`, of the exact product: the source rounds the product of two
doubles, and raises when it is infinite (`decideOnDoubles`). -/
def staleLimitMs : ℤ := ⌊config.staleTimeoutSeconds * 1000⌋

end MonitorConfig

end CollisionMonitor
