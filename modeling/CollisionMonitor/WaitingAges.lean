import CollisionMonitor.Availability

set_option relaxedAutoImplicit false
set_option autoImplicit false

/-!
# Waiting ages

The waiting age of a robot is the number of latest committed ticks in which it was kept waiting, up
to a cap. Nothing is assumed of the collaborators but that the conflict model contains the observed
snapshots.

## Main definitions

* `CommittedTick.Waits` — a committed tick observed the robot away from its goal and paused it.
* `waitingTicks` — the number of latest committed ticks in which a robot waited.
* `committingMachine` — an engine that is asked for decisions, with its committed ticks.

## Main results

* `waitingAges_faithful` — the held ages are the saturated counts, and so are the ages scored.
-/

namespace CollisionMonitor

open Outcome

/-- What a committed tick observed, and the actions it decided. -/
structure CommittedTick where
  observed : List RobotSnapshot
  actions : RobotId → Option Action

namespace CommittedTick

variable (tick : CommittedTick) (r : RobotId)

/-- The tick observed the robot. -/
def Sees : Prop := ∃ s ∈ tick.observed, s.deviceId = r

/-- The tick observed the robot away from its goal, and paused it. -/
def Waits : Prop :=
  (∃ s ∈ tick.observed, s.deviceId = r ∧ s.atGoal = false) ∧ tick.actions r = some .pause

/-- Whether a tick sees a robot can be decided. -/
instance : Decidable (tick.Sees r) := inferInstanceAs (Decidable (∃ s ∈ _, _))

/-- Whether a robot waits in a tick can be decided. -/
instance : Decidable (tick.Waits r) := inferInstanceAs (Decidable ((∃ s ∈ _, _) ∧ _))

variable {tick r}

/-- A robot that waits is seen. -/
lemma Waits.sees (h : tick.Waits r) : tick.Sees r := h.1.imp fun _ ⟨hs, hid, _⟩ => ⟨hs, hid⟩

end CommittedTick

/-- The number of latest ticks, the latest first, in which a robot waited. -/
def waitingTicks (ticks : List CommittedTick) (r : RobotId) : ℕ :=
  (ticks.takeWhile fun tick => tick.Waits r).length

/-- The robot was observed in the latest tick. -/
def SeenLast (ticks : List CommittedTick) (r : RobotId) : Prop := ∃ tick ∈ ticks.head?, tick.Sees r

/-- Whether a robot was seen last can be decided. -/
instance (ticks : List CommittedTick) (r : RobotId) : Decidable (SeenLast ticks r) :=
  inferInstanceAs (Decidable (∃ tick ∈ ticks.head?, _))

/-- The waiting ticks after one more tick. -/
lemma waitingTicks_cons (tick : CommittedTick) (ticks : List CommittedTick) (r : RobotId) :
    waitingTicks (tick :: ticks) r = if tick.Waits r then waitingTicks ticks r + 1 else 0 := by
  unfold waitingTicks
  rw [List.takeWhile_cons]
  split_ifs <;> simp_all

/-- A robot not observed in the latest tick has not waited in it. -/
lemma waitingTicks_of_not_seenLast {ticks : List CommittedTick} {r : RobotId}
    (h : ¬ SeenLast ticks r) : waitingTicks ticks r = 0 := by
  cases ticks with
  | nil => rfl
  | cons tick ticks =>
    rw [waitingTicks_cons, if_neg fun hwaits => h ⟨tick, rfl, hwaits.sees⟩]

/-- An engine with its committed ticks, the latest first. -/
structure CommittedRun (ω : Type) where
  state : EngineState ω Store ℕ
  ticks : List CommittedTick := []

section Machine

variable {E ω : Type} (config : MonitorConfig) (geometry : Geometry E) (parts : Collaborators ω)

/-- **A call of the engine.** It returns a decision, committed or not; or it raises, before its
commit point or while it reports a tick that it committed. -/
inductive CallStep : CommittedRun ω → CommittedRun ω → Prop
  | commits {run d state'} (snapshots : List RobotSnapshot) (nowMs : ℤ) (tickId : String)
      (h : (CollisionDecisionEngine.decide config geometry parts (managerApi config) snapshots
        nowMs tickId).run run.state = .ok d state')
      (hcommitted : d.tickMetadata.stateCommitted = true) :
      CallStep run ⟨state', ⟨observed config nowMs snapshots,
        fun r => (d.decisionFor r).map RobotDecision.action⟩ :: run.ticks⟩
  | keeps {run d state'} (snapshots : List RobotSnapshot) (nowMs : ℤ) (tickId : String)
      (h : (CollisionDecisionEngine.decide config geometry parts (managerApi config) snapshots
        nowMs tickId).run run.state = .ok d state')
      (hcommitted : d.tickMetadata.stateCommitted = false) :
      CallStep run ⟨state', run.ticks⟩
  | raises {run e state'} (snapshots : List RobotSnapshot) (nowMs : ℤ) (tickId : String)
      (h : (CollisionDecisionEngine.decide config geometry parts (managerApi config) snapshots
        nowMs tickId).run run.state = .error e state')
      (hbefore : ¬ ∃ tick, (decideTick config geometry parts (managerApi config) snapshots nowMs
        tickId).run run.state = .ok tick state' ∧ tick.grantResult ≠ none) :
      CallStep run ⟨state', run.ticks⟩
  | raisesCommitted {run tick e state'} (snapshots : List RobotSnapshot) (nowMs : ℤ)
      (tickId : String)
      (h : (CollisionDecisionEngine.decide config geometry parts (managerApi config) snapshots
        nowMs tickId).run run.state = .error e state')
      (htick : (decideTick config geometry parts (managerApi config) snapshots nowMs
        tickId).run run.state = .ok tick state') (hcommitted : tick.grantResult ≠ none) :
      CallStep run ⟨state', ⟨observed config nowMs snapshots, tick.decisions.lookup⟩ :: run.ticks⟩

/-- The runs of an engine that is asked for decisions again and again. -/
def committingMachine : Machine (CommittedRun ω) where
  init := fun run => ∃ world, run = { state := EngineState.initial world }
  step := CallStep config geometry parts

/-- The held waiting ages and previous actions are those of the latest committed ticks. -/
structure AgesFaithful (run : CommittedRun ω) : Prop where
  held : Held run.state
  ages : ∀ r age, run.state.held.waitingAges.lookup r = some age ↔ SeenLast run.ticks r ∧
    age = min config.priorityWaitingAgeCapTicks (waitingTicks run.ticks r)
  actions : ∀ r, r ∈ run.state.held.previousActions ↔ SeenLast run.ticks r

end Machine

section Runs

variable {E ω : Type} {config : MonitorConfig} {geometry : Geometry E} {parts : Collaborators ω}
  {run : CommittedRun ω}

/-- The cap of the waiting age is not negative. -/
lemma waitingAgeCapTicks_nonneg (config : MonitorConfig) : 0 ≤ config.priorityWaitingAgeCapTicks :=
  config.nonNegative_of_mem "priority_waiting_age_cap_ticks"
    (by simp [ConfigFields.nonNegativeIntegerValues])

/-- The held age of a robot, and zero without one, is its saturated count. -/
lemma AgesFaithful.getD_eq (h : AgesFaithful config run) (r : RobotId) :
    (run.state.held.waitingAges.lookup r).getD 0 =
      min config.priorityWaitingAgeCapTicks (waitingTicks run.ticks r) := by
  cases hlook : run.state.held.waitingAges.lookup r with
  | some age => exact ((h.ages r age).mp hlook).2
  | none =>
    have hunseen : ¬ SeenLast run.ticks r := fun hseen => by
      rw [(h.ages r _).mpr ⟨hseen, rfl⟩] at hlook
      cases hlook
    rw [waitingTicks_of_not_seenLast hunseen, Nat.cast_zero,
      min_eq_right (waitingAgeCapTicks_nonneg config)]
    rfl

/-- The age after an action counts one more waiting tick, or none. -/
lemma nextWaitingAge_eq (config : MonitorConfig) (tick : CommittedTick)
    (ticks : List CommittedTick) {s : RobotSnapshot}
    (hunique : ∀ t ∈ tick.observed, t.deviceId = s.deviceId → t = s)
    (hs : s ∈ tick.observed) {a : Action} (ha : tick.actions s.deviceId = some a) :
    GrantManager.nextWaitingAge config s a
        (min config.priorityWaitingAgeCapTicks (waitingTicks ticks s.deviceId)) =
      min config.priorityWaitingAgeCapTicks (waitingTicks (tick :: ticks) s.deviceId) := by
  have hcap := waitingAgeCapTicks_nonneg config
  have hwaits : tick.Waits s.deviceId ↔ ¬ (a = .resume ∨ s.atGoal = true) := by
    unfold CommittedTick.Waits
    rw [ha, Option.some_inj, not_or, ← ne_eq a, Action.ne_resume_iff, Bool.not_eq_true, and_comm]
    refine and_congr_right fun _ => ⟨?_, fun hgoal => ⟨s, hs, rfl, hgoal⟩⟩
    rintro ⟨t, ht, hid, hgoal⟩
    rwa [← hunique t ht hid]
  rw [waitingTicks_cons, GrantManager.nextWaitingAge]
  by_cases hreset : a = .resume ∨ s.atGoal = true
  · rw [if_pos hreset, if_neg fun h => hwaits.mp h hreset, Nat.cast_zero, min_eq_right hcap]
  · rw [if_neg hreset, if_pos (hwaits.mpr hreset)]
    push_cast
    omega

/-- **A commit keeps the ages faithful.** -/
lemma AgesFaithful.commit (h : AgesFaithful config run) {nowMs : ℤ} {tick : TickDecision ℕ}
    {state' : EngineState ω Store ℕ} {ordered : List RobotSnapshot}
    (hsnapshots : ∀ r s, tick.conflictModel.snapshots.lookup r = some s ↔
      s ∈ ordered ∧ s.deviceId = r)
    (hkeys : ∀ r, r ∈ tick.decisions ↔ ∃ s ∈ ordered, s.deviceId = r)
    (howns : state'.store.Owns state'.grantManager)
    (hcommits : CommitsFrom config nowMs tick run.state.held state'.held) :
    AgesFaithful config ⟨state', ⟨ordered, tick.decisions.lookup⟩ :: run.ticks⟩ := by
  obtain ⟨hconsistent, -, hactions, hages⟩ := hcommits.spec h.held.consistent
  have hseen : ∀ r, SeenLast (⟨ordered, tick.decisions.lookup⟩ :: run.ticks) r ↔
      ∃ s ∈ ordered, s.deviceId = r := fun r =>
    ⟨fun ⟨_, hhead, hsees⟩ => by cases hhead; exact hsees, fun hsees => ⟨_, rfl, hsees⟩⟩
  refine ⟨⟨howns, hconsistent⟩, fun r age => ?_, fun r => ?_⟩
  · change state'.held.waitingAges.lookup r = some age ↔ _
    rw [hages, hseen, h.getD_eq]
    cases hlook : tick.conflictModel.snapshots.lookup r with
    | none =>
      have hunseen : ¬ ∃ s ∈ ordered, s.deviceId = r := fun ⟨s, hs, hid⟩ => by
        rw [(hsnapshots r s).mpr ⟨hs, hid⟩] at hlook
        cases hlook
      simp [hunseen]
    | some s =>
      obtain ⟨hs, rfl⟩ := (hsnapshots r s).mp hlook
      have hnext := nextWaitingAge_eq config ⟨ordered, tick.decisions.lookup⟩ run.ticks
        (fun t ht hid => Option.some.inj (((hsnapshots _ t).mpr ⟨ht, hid⟩).symm.trans hlook)) hs
        (lookup_eq_actionOf ((hkeys _).mpr ⟨s, hs, rfl⟩))
      rw [Option.map_some, Option.some_inj, hnext]
      exact ⟨fun heq => ⟨⟨s, hs, rfl⟩, heq.symm⟩, fun heq => heq.2.symm⟩
  · change r ∈ state'.held.previousActions ↔ _
    rw [hseen, ← hkeys, ← AList.lookup_isSome, hactions, AList.lookup_isSome]

/-- A call that commits nothing keeps the ages faithful. -/
lemma AgesFaithful.keep (h : AgesFaithful config run) {state' : EngineState ω Store ℕ}
    (hkept : Kept run.state state') : AgesFaithful config ⟨state', run.ticks⟩ := by
  refine ⟨hkept.held h.held, fun r age => ?_, fun r => ?_⟩
  · change state'.held.waitingAges.lookup r = some age ↔ _
    rw [hkept.held_eq]
    exact h.ages r age
  · change r ∈ state'.held.previousActions ↔ _
    rw [hkept.held_eq]
    exact h.actions r

/-- **What a call does.** It keeps the held manager and commits nothing, or it commits a tick. -/
lemma CallStep.cases_on_commit (hheld : Held run.state) {run' : CommittedRun ω}
    (h : CallStep config geometry parts run run') :
    (Kept run.state run'.state ∧ run'.ticks = run.ticks) ∨
      ∃ snapshots nowMs tickId tick, (decideTick config geometry parts (managerApi config) snapshots
          nowMs tickId).run run.state = .ok tick run'.state ∧ tick.grantResult ≠ none ∧
        run'.ticks = ⟨observed config nowMs snapshots, tick.decisions.lookup⟩ :: run.ticks := by
  cases h with
  | commits snapshots nowMs tickId h hcommitted =>
    obtain ⟨tick, htick, ⟨_, _, hreport⟩, -⟩ :=
      (decide_outcome config geometry parts nowMs hheld snapshots tickId).get_ok h
    obtain ⟨hchecked, hresult, -⟩ :=
      (decideTick_checked run.state snapshots nowMs tickId).get_ok htick
    refine .inr ⟨snapshots, nowMs, tickId, tick, htick, ?_, ?_⟩
    · rw [← Option.isSome_iff_ne_none, hresult, ← hreport.stateCommitted_iff, hcommitted]
    · refine congrArg (CommittedTick.mk _ · :: run.ticks) (funext fun r => hreport.lookup_eq ?_ r)
      rw [hchecked.ordered_eq]
      exact hchecked.overridden.validates.mem_decisions
  | keeps snapshots nowMs tickId h hcommitted =>
    obtain ⟨tick, htick, ⟨_, _, hreport⟩, hkept, -⟩ :=
      (decide_outcome config geometry parts nowMs hheld snapshots tickId).get_ok h
    obtain ⟨-, hresult, -⟩ := (decideTick_checked run.state snapshots nowMs tickId).get_ok htick
    refine .inl ⟨hkept ?_, rfl⟩
    rw [← Option.not_isSome_iff_eq_none, hresult, ← hreport.stateCommitted_iff, hcommitted]
    simp
  | raises snapshots nowMs tickId h hbefore =>
    rcases (decide_outcome config geometry parts nowMs hheld snapshots tickId).get_error h
      with hkept | ⟨tick, htick, hresult, -⟩
    · exact .inl ⟨hkept, rfl⟩
    · exact absurd ⟨tick, htick, hresult⟩ hbefore
  | raisesCommitted snapshots nowMs tickId h htick hcommitted =>
    exact .inr ⟨snapshots, nowMs, tickId, _, htick, hcommitted, rfl⟩

/-- **The ages are faithful in every run.** -/
lemma agesFaithful_of_reachable (hbuilder : ObservingBuilder config parts)
    (h : (committingMachine config geometry parts).Reachable run) : AgesFaithful config run := by
  refine h.invariant ?_ fun run run' _ hinv hstep => ?_
  · rintro _ ⟨world, rfl⟩
    have hload : (EngineState.initial world).held = {} := Store.load_allocate _ _
    refine ⟨reachable_held (.init (M := engineMachine config geometry parts) ⟨world, rfl⟩),
      fun r age => ?_, fun r => ?_⟩
    · rw [hload]
      refine ⟨fun h => ?_, fun ⟨⟨_, hhead, _⟩, _⟩ => ?_⟩
      · cases h
      · cases hhead
    · rw [hload]
      refine ⟨fun h => ?_, fun ⟨_, hhead, _⟩ => ?_⟩
      · cases h
      · cases hhead
  · obtain ⟨state', ticks'⟩ := run'
    rcases CallStep.cases_on_commit hinv.held hstep with ⟨hkept, hsame⟩ |
      ⟨snapshots, nowMs, tickId, tick, htick, hresult, hcons⟩
    · obtain rfl : ticks' = run.ticks := hsame
      exact hinv.keep hkept
    · obtain rfl : ticks' = _ := hcons
      obtain ⟨howns, hcommits⟩ :=
        ((decideTick_transaction hinv.held snapshots tickId).get_ok htick).2 hresult
      obtain ⟨hchecked, -, _, _, hbuilt⟩ :=
        (decideTick_checked run.state snapshots nowMs tickId).get_ok htick
      exact hinv.commit (hbuilder _ hchecked.isOrdered _ _ _ hbuilt)
        hchecked.overridden.validates.mem_decisions howns hcommits

/-- Every score of a component is computed from the age of its robot. -/
lemma scoreComponentPriorities_ages {m : ConflictModel} {K : List RobotId} {nowMs : ℤ}
    {waitingAges : Dict RobotId ℤ} {activeGrants : List RobotId}
    {scores : Dict RobotId PriorityBreakdown}
    (h : scoreComponentPriorities config K m nowMs waitingAges activeGrants = .ok scores)
    {r : RobotId} {p : PriorityBreakdown} (hp : scores.lookup r = some p) :
    ∃ s age, m.snapshots.lookup r = some s ∧ waitingAges.lookup r = some age ∧
      scoreRobotPriority config s (componentConstraints K m) nowMs age
        (decide (r ∈ activeGrants)) (sorted K).length = .ok p := by
  obtain ⟨_, -, h⟩ := bind_eq_ok.mp h
  obtain ⟨_, -, h⟩ := bind_eq_ok.mp h
  obtain ⟨_, -, h⟩ := bind_eq_ok.mp h
  obtain ⟨_, -, h⟩ := bind_eq_ok.mp h
  obtain ⟨r', -, hid, hscore⟩ := Dict.exists_of_lookup_collect h hp
  obtain rfl : r' = r := hid
  obtain ⟨s, hs, hscore⟩ := bind_eq_ok.mp hscore
  obtain ⟨age, hage, hscore⟩ := bind_eq_ok.mp hscore
  exact ⟨s, age, item_eq_ok.mp hs, item_eq_ok.mp hage, hscore⟩

/-- Every score of a tick is computed from the given age of its robot. -/
lemma scorePriorities_ages {m : ConflictModel} {nowMs : ℤ} {waitingAges : Dict RobotId ℤ}
    {activeGrants : Dict RobotId GrantRecord} {scores : Dict RobotId PriorityBreakdown}
    (h : scorePriorities config m waitingAges activeGrants nowMs = .ok scores) {r : RobotId}
    {p : PriorityBreakdown} (hp : scores.lookup r = some p) :
    ∃ K ∈ m.connectedComponents, ∃ s, m.snapshots.lookup r = some s ∧
      scoreRobotPriority config s (componentConstraints K m) nowMs
        ((waitingAges.lookup r).getD 0) (decide (r ∈ activeGrants.keys)) (sorted K).length =
          .ok p := by
  unfold scorePriorities at h
  refine (Returns.foldlM (E := True) (fun done scores => ∀ r p, scores.lookup r = some p →
    ∃ K ∈ done, ∃ s, m.snapshots.lookup r = some s ∧
      scoreRobotPriority config s (componentConstraints K m) nowMs
        ((waitingAges.lookup r).getD 0) (decide (r ∈ activeGrants.keys)) (sorted K).length =
          .ok p) (fun r p hp => by cases hp) ?_).get h r p hp
  intro done K rest scores _ hscores
  refine (Returns.of_runs (fun new hnew => hnew) (.inl trivial)).bind fun new hnew =>
    Returns.ok fun r p hp => ?_
  rw [Dict.lookup_update] at hp
  cases hlook : new.lookup r with
  | none =>
    rw [hlook, Option.none_or] at hp
    obtain ⟨L, hL, hscored⟩ := hscores r p hp
    exact ⟨L, List.mem_append_left _ hL, hscored⟩
  | some q =>
    rw [hlook, Option.some_or] at hp
    obtain rfl := Option.some.inj hp
    obtain ⟨s, age, hs, hage, hscore⟩ := scoreComponentPriorities_ages hnew hlook
    rw [Dict.lookup_ofKeys_of_mem (AList.mem_keys.mp (Dict.mem_of_lookup hs))] at hage
    rw [← Option.some.inj hage] at hscore
    exact ⟨K, List.mem_append_right _ List.mem_cons_self, s, hs, hscore⟩

/-- **Waiting ages are a saturating count.** In every run, whatever robots appear and disappear:
after a committed tick exactly its robots have a waiting age and a previous action, and the age is
the number of latest committed ticks in all of which the robot was observed away from its goal and
paused, up to the cap; a call that commits nothing leaves both maps alone; and a tick scores a robot
with this age, or zero for one not observed in the latest committed tick.

**Proof sketch.** By induction over the run: only a commit changes the ages, and it replaces each by
the next one of the robot's action, from which the capped streak follows. A tick scores with the
ages of its copy. -/
theorem waitingAges_faithful (hbuilder : ObservingBuilder config parts)
    (h : (committingMachine config geometry parts).Reachable run) :
    (∀ tick rest, run.ticks = tick :: rest →
      (∀ r, r ∈ run.state.held.waitingAges ↔ tick.Sees r) ∧
      (∀ r, r ∈ run.state.held.previousActions ↔ tick.Sees r) ∧
      ∀ r, tick.Sees r → run.state.held.waitingAges.lookup r =
        some (min config.priorityWaitingAgeCapTicks (waitingTicks run.ticks r))) ∧
    (∀ run', CallStep config geometry parts run run' → run'.ticks = run.ticks →
      run'.state.held.waitingAges = run.state.held.waitingAges ∧
      run'.state.held.previousActions = run.state.held.previousActions) ∧
    ∀ snapshots nowMs tickId tick state', (decideTick config geometry parts (managerApi config)
        snapshots nowMs tickId).run run.state = .ok tick state' →
      ∀ r p, tick.priorities.lookup r = some p → ∃ K ∈ tick.conflictModel.connectedComponents,
        ∃ s granted, tick.conflictModel.snapshots.lookup r = some s ∧
          scoreRobotPriority config s (componentConstraints K tick.conflictModel) nowMs
            (if SeenLast run.ticks r then
              min config.priorityWaitingAgeCapTicks (waitingTicks run.ticks r) else 0)
            granted (sorted K).length = .ok p := by
  have hinv := agesFaithful_of_reachable hbuilder h
  refine ⟨fun tick rest hticks => ?_, fun run' hstep hsame => ?_, ?_⟩
  · have hseen : ∀ r, SeenLast run.ticks r ↔ tick.Sees r := fun r => by
      rw [hticks]
      exact ⟨fun ⟨_, hhead, hsees⟩ => by cases hhead; exact hsees, fun hsees => ⟨tick, rfl, hsees⟩⟩
    refine ⟨fun r => ?_, fun r => (hinv.actions r).trans (hseen r), fun r hsees =>
      (hinv.ages r _).mpr ⟨(hseen r).mpr hsees, rfl⟩⟩
    rw [← hseen, ← AList.lookup_isSome, Option.isSome_iff_exists]
    simp only [hinv.ages, exists_and_left, exists_eq, and_true]
  · rcases CallStep.cases_on_commit hinv.held hstep with ⟨hkept, -⟩ |
      ⟨snapshots, nowMs, tickId, tick, -, -, hcons⟩
    · exact ⟨congrArg _ hkept.held_eq, congrArg _ hkept.held_eq⟩
    · exact absurd (hsame.symm.trans hcons) (List.cons_ne_self _ _).symm
  · intro snapshots nowMs tickId tick state' htick r p hp
    obtain ⟨copy, prepared, solved, previewed, hclone, hprepare, hdeliberates⟩ :=
      (decideTick_deliberates hinv.held snapshots tickId).get_ok htick
    obtain ⟨hcopy, -, hages⟩ := hinv.held.consistent.clone hclone
    obtain ⟨-, -, -, -, hkept, -⟩ := (GrantManager.prepareTick_frame _ hcopy).get_ok hprepare
    obtain ⟨K, hK, s, hs, hscore⟩ := scorePriorities_ages hdeliberates.scores hp
    refine ⟨K, hK, s, decide (r ∈ prepared.activeGrants.keys), hs, ?_⟩
    rw [hkept, if_pos (Dict.mem_of_lookup hs), hages, hinv.getD_eq] at hscore
    split_ifs with hseen
    · exact hscore
    · rwa [waitingTicks_of_not_seenLast hseen, Nat.cast_zero,
        min_eq_right (waitingAgeCapTicks_nonneg config)] at hscore

end Runs

/-! ## The shipped engine -/

/-- The shipped builder returns models of the snapshots it was given. -/
lemma shipped_observing {E : Type} (config : MonitorConfig) (geometry : Geometry E)
    (cpSat : ℕ → Backend) :
    ObservingBuilder config (shippedCollaborators config geometry cpSat) := by
  intro ordered hord world m world' h
  have hrep := buildConflictModel_represents (run_lift_eq_ok.mp h).1
  rw [sortedBy_eq_self _ (hord.increasing.imp fun h => h.le)] at hrep
  exact hrep.lookup_iff

/-- After one tick of the shipped engine for two approaching robots the paused one has waited one
tick. -/
theorem waitingAges_faithful_approaching : ∃ run, (committingMachine defaultConfig lineGeometry
      (shippedCollaborators defaultConfig lineGeometry fun _ => none)).Reachable run ∧
    run.ticks.length = 1 ∧ run.state.held.waitingAges.lookup robotB = some 1 := by
  obtain ⟨d, state', hrun, hcommitted, hpaused⟩ := Ensures.exists_ok
    (x := shippedDecide defaultConfig lineGeometry (fun _ => none) approaching 0 "first")
    (s := EngineState.initial 0) (Q := fun d _ => d.tickMetadata.stateCommitted = true ∧
      (d.decisionFor robotB).map RobotDecision.action = some .pause) (by decide +kernel)
  have hreach := Machine.Reachable.step (M := committingMachine defaultConfig lineGeometry
    (shippedCollaborators defaultConfig lineGeometry fun _ => none)) (.init ⟨0, rfl⟩)
    (CallStep.commits approaching 0 "first" hrun hcommitted)
  obtain ⟨hfaithful, -, -⟩ := waitingAges_faithful (shipped_observing _ _ _) hreach
  obtain ⟨-, -, hages⟩ := hfaithful _ _ rfl
  have hobserved : ∃ s ∈ observed defaultConfig 0 approaching, s.deviceId = robotB ∧
      s.atGoal = false := by decide +kernel
  have hwaits : CommittedTick.Waits ⟨observed defaultConfig 0 approaching,
      fun r => (d.decisionFor r).map RobotDecision.action⟩ robotB :=
    ⟨hobserved, hpaused⟩
  refine ⟨_, hreach, rfl, (hages robotB hwaits.sees).trans ?_⟩
  rw [waitingTicks_cons, if_pos hwaits]
  rfl

end CollisionMonitor
