import CollisionMonitor.Propagation

set_option relaxedAutoImplicit false
set_option autoImplicit false

/-!
# The heuristic decides its component

`solve` returns on every well-formed input, and its result is exact: it is feasible iff the
component has an admissible assignment, and it progresses iff an admissible assignment resumes
some robot of the component.

## Main definitions

* `Decides` — a complete admissible assignment of a component.
* `CanProgress` — some admissible assignment resumes a robot of the component.
* `Solves` — what a result says about the component.

## Main results

* `solve_spec` — every result solves its component.
* `solve_total` — the heuristic never raises from its validators.
-/

namespace CollisionMonitor

open Outcome TwoClause

/-- The decisions assign exactly the component, admissibly. -/
def Decides (component : List RobotId) (constraints : List PairwiseCompatibility)
    (hard decisions : Dict RobotId Action) : Prop :=
  (∀ r, r ∈ decisions ↔ r ∈ component) ∧ Admissible constraints hard (actionOf decisions)

/-- Some admissible assignment resumes a robot of the component. -/
def CanProgress (component : List RobotId) (constraints : List PairwiseCompatibility)
    (hard : Dict RobotId Action) : Prop :=
  ∃ x, Admissible constraints hard x ∧ ∃ r ∈ component, x r = .resume

/-- What a result says about the admissible assignments of its component. -/
structure Solves (component : List RobotId) (constraints : List PairwiseCompatibility)
    (hard : Dict RobotId Action) (r : HeuristicFields) : Prop where
  feasible_iff : r.feasible = true ↔ ∃ x, Admissible constraints hard x
  progress_iff : r.progressMade = true ↔ CanProgress component constraints hard
  decides : r.feasible = true → Decides component constraints hard r.decisions
  resumes : r.progressMade = true → ∃ robotId ∈ component,
    actionOf r.decisions robotId = .resume
  feasible_of_progress : r.progressMade = true → r.feasible = true
  source : r.decisionSource = if r.progressMade then .heuristic else .failSafe

/-- The values of an assignment in rank order. -/
def rankProfile (ranked : List RobotId) (x : RobotId → Action) : List (Fin 2) :=
  ranked.map fun r => actionToBinary (x r)

/-! ## Dictionaries of actions -/

/-- Some decision is a Resume. -/
lemma anyResume_iff {decisions : Dict RobotId Action} :
    anyResume decisions = true ↔ ∃ r, decisions.lookup r = some .resume := by
  unfold anyResume
  rw [List.any_eq_true]
  constructor
  · rintro ⟨⟨r, a⟩, hmem, ha⟩
    obtain rfl : a = .resume := by simpa using ha
    exact ⟨r, AList.mem_lookup_iff.mpr hmem⟩
  · rintro ⟨r, hr⟩
    exact ⟨⟨r, .resume⟩, AList.mem_lookup_iff.mp hr, rfl⟩

/-- All decisions are Pauses. -/
lemma allPause_iff {decisions : Dict RobotId Action} :
    allPause decisions = true ↔ ∀ r a, decisions.lookup r = some a → a = .pause := by
  unfold allPause
  rw [List.all_eq_true]
  constructor
  · intro h r a hr
    simpa using h ⟨r, a⟩ (AList.mem_lookup_iff.mp hr)
  · rintro h ⟨r, a⟩ hmem
    rw [h r a (AList.mem_lookup_iff.mpr hmem)]
    rfl

/-- Decisions with a Resume resume a robot of their component. -/
lemma Decides.anyResume_iff {component : List RobotId} {constraints : List PairwiseCompatibility}
    {hard decisions : Dict RobotId Action} (h : Decides component constraints hard decisions) :
    anyResume decisions = true ↔ ∃ r ∈ component, actionOf decisions r = .resume := by
  rw [CollisionMonitor.anyResume_iff]
  constructor
  · rintro ⟨r, hr⟩
    exact ⟨r, (h.1 r).mp (Dict.mem_of_lookup hr), actionOf_eq hr⟩
  · rintro ⟨r, hr, hact⟩
    exact ⟨r, by rw [lookup_eq_actionOf ((h.1 r).mpr hr), hact]⟩

/-! ## From actions to binary values -/

section Encode

variable {constraints : List PairwiseCompatibility} {hard : Dict RobotId Action}

/-- The seed of a search: the hard actions in binary. -/
def seedOf (hard : Dict RobotId Action) : BinaryAssignment :=
  Dict.ofPairs (hard.entries.map fun entry => (entry.1, actionToBinary entry.2))

/-- The seed is about the robots of the hard assignments. -/
lemma mem_seedOf {r : RobotId} : r ∈ seedOf hard ↔ r ∈ hard := by
  rw [← AList.lookup_isSome, ← AList.lookup_isSome, seedOf, Dict.lookup_ofPairs_entries,
    Option.isSome_map]

/-- The clauses of the heuristic hold exactly of the safe assignments.

**Proof sketch.** There is one clause for each no-good of a constraint, and it forbids the two
actions of the no-good. So the clauses hold of an assignment exactly if none of its pairs of actions
is a no-good. -/
lemma buildClauses_spec (constraints : List PairwiseCompatibility) :
    ∃ clauses, buildClauses constraints = .ok clauses ∧
      (∀ y, Satisfies (twoClauses clauses) y ↔
        Safe constraints fun r => binaryToAction (y r)) ∧
      ∀ r ∈ clauseRobots clauses, ∃ pair ∈ constraints, r = pair.robotI ∨ r = pair.robotJ := by
  obtain ⟨clauses, hclauses⟩ := mapM_total (l := componentNoGoods constraints)
    (f := BinaryClause.fromNoGood) (by
      intro noGood hmem
      obtain ⟨pair, -, a, b, -, rfl⟩ := mem_componentNoGoods.mp hmem
      exact ⟨_, rfl⟩)
  have hmem : ∀ clause ∈ clauses, ∃ pair ∈ constraints, ∃ a b, pair.isSafe a b = false ∧
      clause.literals = (⟨pair.robotI, actionToBinary a⟩, ⟨pair.robotJ, actionToBinary b⟩) := by
    intro clause hclause
    obtain ⟨noGood, hnoGood, hok⟩ := exists_of_mem_mapM hclauses clause hclause
    obtain ⟨pair, hpair, a, b, hviolated, rfl⟩ := mem_componentNoGoods.mp hnoGood
    exact ⟨pair, hpair, a, b, hviolated, by rw [← Except.ok.inj hok]⟩
  refine ⟨clauses, hclauses, fun y => ⟨fun h pair hpair => ?_, fun h c hc => ?_⟩, fun r hr => ?_⟩
  · by_contra hviolated
    rw [Bool.not_eq_true] at hviolated
    obtain ⟨clause, hclause, hok⟩ := exists_mem_of_mapM hclauses _
      (mem_componentNoGoods.mpr ⟨pair, hpair, _, _, hviolated, rfl⟩)
    have hlit : clause.literals = (⟨pair.robotI, y pair.robotI⟩, ⟨pair.robotJ, y pair.robotJ⟩) := by
      rw [← Except.ok.inj hok]
      simp
    have hholds := h _ (List.mem_map_of_mem hclause)
    rw [BinaryClause.toTwo, hlit] at hholds
    rcases hholds with hholds | hholds
    · exact hholds rfl
    · exact hholds rfl
  · obtain ⟨clause, hclause, rfl⟩ := List.mem_map.mp hc
    obtain ⟨pair, hpair, a, b, hviolated, hlit⟩ := hmem clause hclause
    by_contra hnot
    rw [Clause.Holds, BinaryClause.toTwo, hlit, not_or] at hnot
    simp only [Literal.Holds, not_not] at hnot
    have hsafe := h pair hpair
    simp only [hnot.1, hnot.2, binaryToAction_actionToBinary, hviolated] at hsafe
    cases hsafe
  · obtain ⟨clause, hclause, hr⟩ := List.mem_flatMap.mp hr
    obtain ⟨pair, hpair, a, b, -, hlit⟩ := hmem clause hclause
    rw [hlit] at hr
    exact ⟨pair, hpair, by simpa using hr⟩

/-- Extending the seed is taking the hard actions. -/
lemma extends_seedOf_iff {y : RobotId → Fin 2} : Extends y (values (seedOf hard)) ↔
    ∀ r a, hard.lookup r = some a → binaryToAction (y r) = a := by
  have hlook : ∀ r, values (seedOf hard) r = (hard.lookup r).map actionToBinary := fun r =>
    Dict.lookup_ofPairs_entries hard actionToBinary r
  constructor
  · intro h r a hr
    rw [h r (actionToBinary a) (by rw [hlook, hr]; rfl), binaryToAction_actionToBinary]
  · intro h r b hb
    rw [hlook, Option.map_eq_some_iff] at hb
    obtain ⟨a, ha, rfl⟩ := hb
    rw [← h r a ha, actionToBinary_binaryToAction]

end Encode

/-! ## The stages of the search -/

section Stages

variable {ordered : List RobotId} {constraints : List PairwiseCompatibility}
  {hard : Dict RobotId Action} {clauses : List BinaryClause}

/-- What the search is given: constraints and hard actions inside a non-empty duplicate-free
component, and clauses that say what the constraints say. -/
structure SearchInput (ordered : List RobotId) (constraints : List PairwiseCompatibility)
    (hard : Dict RobotId Action) (clauses : List BinaryClause) : Prop where
  nonempty : ordered ≠ []
  nodup : ordered.Nodup
  inside : ∀ pair ∈ constraints, pair.robotI ∈ ordered ∧ pair.robotJ ∈ ordered
  hard_mem : ∀ r ∈ hard, r ∈ ordered
  clause_mem : ∀ r ∈ clauseRobots clauses, r ∈ ordered
  satisfies_iff : ∀ y, Satisfies (twoClauses clauses) y ↔
    Safe constraints fun r => binaryToAction (y r)

/-- The action of a robot under a binary assignment, Pause where it has none. -/
def chosenAction (q : BinaryAssignment) (r : RobotId) : Action :=
  binaryToAction ((q.lookup r).getD 0)

/-- A complete binary assignment is converted to its actions. -/
lemma actionsFromBinary_total {q : BinaryAssignment} (hkeys : ∀ r, r ∈ q ↔ r ∈ ordered) :
    ∃ decisions, actionsFromBinary ordered q = .ok decisions ∧
      (∀ r, r ∈ decisions ↔ r ∈ ordered) ∧ actionOf decisions = chosenAction q := by
  have hvalue : ∀ r b, q.lookup r = some b → (do
      return if (← item q r) = 1 then .resume else .pause) =
        (.ok (binaryToAction b) : Except PyException Action) := by
    intro r b hb
    rw [item_eq_ok.mpr hb]
    rfl
  obtain ⟨decisions, hok⟩ := Dict.collect_total id
    (fun r => do return if (← item q r) = 1 then Action.resume else .pause) (sorted ordered) (by
      intro r hr
      obtain ⟨b, hb⟩ := Dict.exists_lookup ((hkeys r).mpr (mem_sorted.mp hr))
      exact ⟨_, hvalue r b hb⟩)
  have hmem : ∀ r, r ∈ decisions ↔ r ∈ ordered := fun r => by
    rw [Dict.mem_collect hok]
    simp
  refine ⟨decisions, hok, hmem, funext fun r => ?_⟩
  by_cases hr : r ∈ ordered
  · obtain ⟨b, hb⟩ := Dict.exists_lookup ((hkeys r).mpr hr)
    obtain ⟨a, ha, hlook⟩ := Dict.lookup_collect_id hok (mem_sorted.mpr hr)
    rw [hvalue r b hb] at ha
    rw [actionOf_eq hlook, chosenAction, hb, Option.getD_some, Except.ok.inj ha]
  · -- outside the component both sides read Pause
    have hq : q.lookup r = none := AList.lookup_eq_none.mpr (by rwa [hkeys])
    have hd : decisions.lookup r = none := AList.lookup_eq_none.mpr (by rwa [hmem])
    rw [actionOf, hd, chosenAction, hq]
    rfl

/-- A complete binary assignment whose extensions solve the clauses decides the component. -/
lemma decides_of_complete (h : SearchInput ordered constraints hard clauses)
    {q : BinaryAssignment} (hkeys : ∀ r, r ∈ q ↔ r ∈ ordered)
    (hsol : ∀ y, Extends y (values q) →
      Satisfies (twoClauses clauses) y ∧ Extends y (values (seedOf hard))) :
    ∃ decisions, actionsFromBinary ordered q = .ok decisions ∧
      Decides ordered constraints hard decisions ∧
      ∀ r b, q.lookup r = some b → actionOf decisions r = binaryToAction b := by
  obtain ⟨decisions, hok, hmem, hact⟩ := actionsFromBinary_total hkeys
  obtain ⟨hsat, hext⟩ := hsol _ (complete_extends (values q) fun _ => 0)
  refine ⟨decisions, hok, ⟨hmem, ?_, ?_⟩, fun r b hb => ?_⟩
  · rw [hact]
    exact (h.satisfies_iff _).mp hsat
  · rw [hact]
    exact extends_seedOf_iff.mp hext
  · rw [hact, chosenAction, hb, Option.getD_some]

/-- An assignment on a component with as many robots as the component covers it. -/
lemma mem_iff_of_length {q : BinaryAssignment}
    (hq : ∀ r ∈ q, r ∈ ordered) (hlen : q.keys.length = ordered.length) (r : RobotId) :
    r ∈ q ↔ r ∈ ordered := by
  have hsub : q.keys ⊆ ordered := fun v hv => hq v (AList.mem_keys.mpr hv)
  have hperm := (q.keys_nodup.subperm hsub).perm_of_length_le hlen.ge
  rw [AList.mem_keys, hperm.mem_iff]

/-- An admissible assignment in binary solves the clauses and extends the seed. -/
lemma solution_of_admissible (h : SearchInput ordered constraints hard clauses)
    {x : RobotId → Action} (hx : Admissible constraints hard x) :
    Satisfies (twoClauses clauses) (fun r => actionToBinary (x r)) ∧
      Extends (fun r => actionToBinary (x r)) (values (seedOf hard)) := by
  rw [h.satisfies_iff, extends_seedOf_iff]
  simp only [binaryToAction_actionToBinary]
  exact hx

/-- **A greedy pass that resumes nobody refutes progress**: it fails, or gives every ranked robot
the value `0`, only if no admissible assignment resumes a robot. -/
theorem not_canProgress_of_greedyPass (h : SearchInput ordered constraints hard clauses)
    {ranked : List RobotId} (hranked : ∀ r, r ∈ ranked ↔ r ∈ ordered)
    (hstuck : ∀ q, greedyPass ranked (seedOf hard) clauses = some q →
      ∀ v ∈ ranked, q.lookup v = some 0) : ¬ CanProgress ordered constraints hard := by
  rintro ⟨x, hx, r, hr, hresume⟩
  obtain ⟨hsat, hext⟩ := solution_of_admissible h hx
  have hspec := greedyPass_spec (seedOf hard) (fun r hr => (hranked r).mpr (h.clause_mem r hr))
  cases hpass : greedyPass ranked (seedOf hard) clauses with
  | none =>
    rw [hpass] at hspec
    exact hspec _ hsat hext
  | some q =>
    rw [hpass] at hspec
    -- every solution is below the result, which is `0` throughout
    have hzero := eq_zero_of_greedy_zero (hspec.2.2 _ hsat hext) (hstuck q hpass) r
      ((hranked r).mpr hr)
    rw [hresume] at hzero
    exact absurd hzero (by decide)

/-- A greedy pass that returns gives every ranked robot a value. -/
lemma mem_of_greedyPass_some (h : SearchInput ordered constraints hard clauses)
    {ranked : List RobotId} (hranked : ∀ r, r ∈ ranked ↔ r ∈ ordered) {q : BinaryAssignment}
    (hpass : greedyPass ranked (seedOf hard) clauses = some q) : ∀ r ∈ ranked, r ∈ q := by
  have hspec := greedyPass_spec (seedOf hard) (fun r hr => (hranked r).mpr (h.clause_mem r hr))
  rw [hpass] at hspec
  exact hspec.2.1

/-- **The greedy stage is exact.** Either it fails and nothing is admissible, or it decides the
component, with a Resume whenever progress is possible, and no admissible assignment is
lexicographically above its decisions.

**Proof sketch.** The greedy pass is exact for the clauses (`greedyPass_spec`), whose solutions are
the admissible assignments. Its result assigns exactly the robots of the component, so it is
complete and passes the validation. -/
theorem greedyDecisions_spec (h : SearchInput ordered constraints hard clauses)
    {ranked : List RobotId} (hranked : ∀ r, r ∈ ranked ↔ r ∈ ordered) :
    (greedyDecisions ordered (greedyPass ranked (seedOf hard) clauses) constraints hard =
        .ok none ∧ ¬ ∃ x, Admissible constraints hard x) ∨
      ∃ decisions, greedyDecisions ordered (greedyPass ranked (seedOf hard) clauses) constraints
          hard = .ok (some decisions) ∧ Decides ordered constraints hard decisions ∧
        (CanProgress ordered constraints hard → anyResume decisions = true) ∧
        ∀ x, Admissible constraints hard x →
          rankProfile ranked x ≤ rankProfile ranked (actionOf decisions) := by
  have hspec := greedyPass_spec (seedOf hard)
    (fun r hr => (hranked r).mpr (h.clause_mem r hr))
  cases hpass : greedyPass ranked (seedOf hard) clauses with
  | none =>
    rw [hpass] at hspec
    refine .inl ⟨rfl, ?_⟩
    rintro ⟨x, hx⟩
    obtain ⟨hsat, hext⟩ := solution_of_admissible h hx
    exact hspec _ hsat hext
  | some q =>
    rw [hpass] at hspec
    obtain ⟨hsol, hall, hlex⟩ := hspec
    have hmem : ∀ r, r ∈ q ↔ r ∈ ordered := fun r =>
      ⟨mem_of_greedyPass hpass (fun v hv => (hranked v).mp hv)
        (fun v hv => h.hard_mem v (mem_seedOf.mp hv)) h.clause_mem r,
        fun hr => hall r ((hranked r).mpr hr)⟩
    obtain ⟨decisions, hactions, hdec, hact⟩ := decides_of_complete h hmem hsol
    refine .inr ⟨decisions, ?_, hdec, fun hcan => ?_, fun x hx => ?_⟩
    · rw [greedyDecisions, if_pos (Dict.length_keys_eq h.nodup hmem), hactions, ok_bind,
        (validateComponentDecisions_eq_ok h.inside h.hard_mem).mpr hdec]
      rfl
    · by_contra hnone
      refine not_canProgress_of_greedyPass h hranked (fun q' hq' v hv => ?_) hcan
      obtain rfl := Option.some.inj (hpass.symm.trans hq')
      obtain ⟨b, hb⟩ := Dict.exists_lookup ((hmem v).mpr ((hranked v).mp hv))
      rcases eq_zero_or_one b with rfl | rfl
      · exact hb
      · exact absurd (hdec.anyResume_iff.mpr ⟨v, (hranked v).mp hv, hact v 1 hb⟩) hnone
    · obtain ⟨hsat, hext⟩ := solution_of_admissible h hx
      refine map_le_of_extends_or_below (hlex _ hsat hext)
        (fun v hv => isSome_values.mpr (hall v hv)) fun v b hb => ?_
      rw [hact v b hb, actionToBinary_binaryToAction]

/-- Pausing the rest keeps the assignment closed, extended and inside the component. -/
lemma foldlM_pauseStep {K : List RobotId} (hclauses : ∀ r ∈ clauseRobots clauses, r ∈ K)
    {robots : List RobotId} (hrobots : ∀ r ∈ robots, r ∈ K) {p q : BinaryAssignment}
    (hp : Closed (twoClauses clauses) (values p)) (hpK : ∀ r ∈ p, r ∈ K)
    (hok : robots.foldlM (pauseStep clauses) p = some q) :
    Closed (twoClauses clauses) (values q) ∧ Le (values p) (values q) ∧ ∀ r ∈ q, r ∈ K := by
  induction robots generalizing p with
  | nil =>
    obtain rfl := Option.some.inj hok
    exact ⟨hp, Le.refl _, hpK⟩
  | cons v robots ih =>
    rw [List.forall_mem_cons] at hrobots
    obtain ⟨p', hp', hrest⟩ := Option.bind_eq_some_iff.mp hok
    unfold pauseStep at hp'
    split_ifs at hp' with hv
    · obtain rfl := Option.some.inj hp'
      exact ih hrobots.2 hp hpK hrest
    · obtain ⟨trial, htrial, hforced, hclosed⟩ := tryAssignment_some hp'
      obtain ⟨hle, -, hnew, -⟩ := assignBinary_some htrial
      have hpK' : ∀ r ∈ p', r ∈ K := by
        intro r hr
        rcases hforced.mem r hr with hr | hr
        · rcases hnew r hr with hr | rfl
          · exact hpK r hr
          · exact hrobots.1
        · exact hclauses r hr
      obtain ⟨hcl, hle', hqK⟩ := ih hrobots.2 hclosed hpK' hrest
      exact ⟨hcl, (hle.trans hforced.grows).trans hle', hqK⟩

/-- **The escape loop never raises**, and what it returns decides the component with a Resume.

**Proof sketch.** By induction on the candidates. A candidate is skipped, or its trial and the
pauses after it grow from the base, so the complete assignment satisfies the clauses and the seed,
and the validation at the end succeeds. -/
lemma escapeLoop_spec (h : SearchInput ordered constraints hard clauses)
    {base : BinaryAssignment} (hseed : Le (values (seedOf hard)) (values base))
    (hbase : ∀ r ∈ base, r ∈ ordered) {candidates : List RobotId}
    (hcand : ∀ r ∈ candidates, r ∈ ordered) :
    ∃ result, escapeLoop ordered clauses constraints hard base candidates = .ok result ∧
      ∀ decisions, result = some decisions →
        Decides ordered constraints hard decisions ∧ anyResume decisions = true := by
  induction candidates with
  | nil => exact ⟨none, rfl, by simp⟩
  | cons escapeRobot candidates ih =>
    rw [List.forall_mem_cons] at hcand
    have hnext := ih hcand.2
    rw [escapeLoop]
    split_ifs with hzero
    · exact hnext
    cases htry : tryAssignment base escapeRobot 1 clauses with
    | none => exact hnext
    | some trial =>
      obtain ⟨start, hstart, hforced, hclosed⟩ := tryAssignment_some htry
      obtain ⟨hle, -, hnew, -⟩ := assignBinary_some hstart
      have htrial : ∀ r ∈ trial, r ∈ ordered := by
        intro r hr
        rcases hforced.mem r hr with hr | hr
        · rcases hnew r hr with hr | rfl
          · exact hbase r hr
          · exact hcand.1
        · exact h.clause_mem r hr
      dsimp only
      cases hpause : (sorted ordered).foldlM (pauseStep clauses) trial with
      | none => exact hnext
      | some q =>
        obtain ⟨hcl, hle', hq⟩ := foldlM_pauseStep h.clause_mem
          (fun r hr => mem_sorted.mp hr) hclosed htrial hpause
        dsimp only
        split_ifs with hlen
        · exact hnext
        have hmem := mem_iff_of_length hq (not_not.mp hlen)
        have hgrow := hseed.trans ((hle.trans hforced.grows).trans hle')
        obtain ⟨decisions, hactions, hdec, -⟩ := decides_of_complete h hmem fun y hy =>
          ⟨hcl.satisfies_of_total (fun c hc => by
            obtain ⟨clause, hclause, rfl⟩ := List.mem_map.mp hc
            refine isSome_values.mpr ((hmem _).mpr (h.clause_mem _ ?_))
            exact List.mem_flatMap.mpr ⟨clause, hclause, by simp [BinaryClause.toTwo]⟩) hy,
            hy.mono hgrow⟩
        rw [hactions, ok_bind]
        split_ifs with hresume
        · refine ⟨some decisions, ?_, fun d hd => ?_⟩
          · rw [(validateComponentDecisions_eq_ok h.inside h.hard_mem).mpr hdec]
            rfl
          · obtain rfl := Option.some.inj hd
            exact ⟨hdec, hresume⟩
        · exact hnext

/-- The repair pass never raises, and what it returns decides the component with a Resume. -/
lemma repairPass_spec (h : SearchInput ordered constraints hard clauses) (config : MonitorConfig)
    (ranked : List RobotId) (priorities : Dict RobotId PriorityBreakdown)
    (hprio : ∀ r ∈ ordered, r ∈ priorities) :
    ∃ result, repairPass ordered clauses constraints hard config ranked (seedOf hard) priorities =
        .ok result ∧ ∀ decisions, result = some decisions →
          Decides ordered constraints hard decisions ∧ anyResume decisions = true := by
  unfold repairPass
  cases hbase : propagate (seedOf hard) clauses with
  | none => exact ⟨none, rfl, by simp⟩
  | some base =>
    obtain ⟨hforced, -⟩ := propagate_some hbase
    obtain ⟨keyed, hkeyed⟩ := mapM_total (l := ordered) (f := fun r => do
      let priority ← item priorities r
      return ((-priority.val.clearanceConflictCount, ranked.idxOf r, r), r)) (by
        intro r hr
        obtain ⟨p, hp⟩ := Dict.exists_lookup (hprio r hr)
        exact ⟨_, by rw [item_eq_ok.mpr hp]; rfl⟩)
    have hsnd : keyed.map Prod.snd = ordered := by
      have := map_of_mapM (g := Prod.snd) (k := id) hkeyed fun r entry hentry => by
        obtain ⟨p, -, heq⟩ := bind_eq_ok.mp hentry
        rw [← Except.ok.inj heq]
        rfl
      simpa using this
    dsimp only
    rw [hkeyed, ok_bind]
    refine escapeLoop_spec h hforced.grows (fun r hr => ?_) fun r hr => ?_
    · exact (hforced.mem r hr).elim (fun hr => h.hard_mem r (mem_seedOf.mp hr)) (h.clause_mem r)
    · have hr := List.mem_of_mem_take hr
      rwa [((sortedBy_perm _ keyed).map Prod.snd).mem_iff, hsnd] at hr

/-- The fail-safe stage returns all-Pause when that is admissible, and infeasibility otherwise.

**Proof sketch.** All-Pause passes the validation exactly if it is admissible, and then every hard
action is a Pause. In all other cases the result that is built says that nothing feasible was
found. -/
lemma failSafeResult_spec (h : SearchInput ordered constraints hard clauses) :
    ∃ r, failSafeResult ordered constraints hard = .ok r ∧ r.val.progressMade = false ∧
      r.val.decisionSource = .failSafe ∧
      (r.val.feasible = true ↔ Admissible constraints hard fun _ => .pause) ∧
      (r.val.feasible = true → Decides ordered constraints hard r.val.decisions) := by
  set allPaused : Dict RobotId Action := Dict.ofKeys ordered fun _ => .pause with hpaused
  have hact : actionOf allPaused = fun _ => .pause := by
    funext r
    rw [actionOf, hpaused, Dict.lookup_ofKeys]
    split_ifs <;> rfl
  have hmem : ∀ r, r ∈ allPaused ↔ r ∈ ordered := fun r => Dict.mem_ofKeys
  have hvalid : validateComponentDecisions ordered allPaused constraints hard = .ok () ↔
      Admissible constraints hard fun _ => .pause := by
    rw [validateComponentDecisions_eq_ok h.inside h.hard_mem, and_iff_right hmem, hact]
  have hinfeasible : ∃ r, validate HeuristicFields.postInit
      { feasible := false, decisions := ∅, decisionSource := .failSafe, progressMade := false
        fallbackReason := some "no_feasible_assignment_found" } = .ok r ∧
      r.val.progressMade = false ∧ r.val.decisionSource = .failSafe ∧ r.val.feasible = false :=
    ⟨_, validate_of_accepted (by simp [HeuristicFields.postInit]; rfl), rfl, rfl, rfl⟩
  obtain ⟨bad, hbad, hbadProgress, hbadSource, hbadFeasible⟩ := hinfeasible
  unfold failSafeResult
  dsimp only
  by_cases hadm : Admissible constraints hard fun _ => .pause
  · have hall : allPause hard = true := allPause_iff.mpr fun r a hr => (hadm.2 r a hr).symm
    have hne : allPaused.keys ≠ [] := by
      obtain ⟨r, hr⟩ := List.exists_mem_of_ne_nil _ h.nonempty
      exact List.ne_nil_of_mem (AList.mem_keys.mp ((hmem r).mpr hr))
    rw [if_pos hall, hvalid.mpr hadm]
    refine ⟨_, validate_of_accepted ?_, rfl, rfl, by simpa using hadm, fun _ => ⟨hmem, ?_⟩⟩
    · unfold HeuristicFields.postInit
      simp only [bind_eq_ok, raiseIf_eq_ok]
      simpa using hne
    · rw [hact]
      exact hadm
  · have hrest : ∀ r : HeuristicResult, r = bad → r.val.progressMade = false ∧
        r.val.decisionSource = .failSafe ∧
        (r.val.feasible = true ↔ Admissible constraints hard fun _ => .pause) ∧
        (r.val.feasible = true → Decides ordered constraints hard r.val.decisions) := by
      rintro r rfl
      simp [hbadProgress, hbadSource, hbadFeasible, hadm]
    split_ifs with hall
    · cases hres : validateComponentDecisions ordered allPaused constraints hard with
      | ok u => exact absurd (hvalid.mp hres) hadm
      | error e =>
        obtain ⟨message, rfl⟩ := validateComponentDecisions_error h.inside hres
        exact ⟨bad, hbad, hrest bad rfl⟩
    · exact ⟨bad, hbad, hrest bad rfl⟩

/-- Without possible progress the repair pass finds nothing. -/
lemma repairPass_of_stuck (h : SearchInput ordered constraints hard clauses)
    (config : MonitorConfig) (ranked : List RobotId) (priorities : Dict RobotId PriorityBreakdown)
    (hprio : ∀ r ∈ ordered, r ∈ priorities) (hstuck : ¬ CanProgress ordered constraints hard) :
    repairPass ordered clauses constraints hard config ranked (seedOf hard) priorities =
      .ok none := by
  obtain ⟨repaired, hrepair, hrepaired⟩ := repairPass_spec h config ranked priorities hprio
  cases repaired with
  | none => exact hrepair
  | some decisions =>
    obtain ⟨hdec, hresume⟩ := hrepaired decisions rfl
    exact absurd ⟨_, hdec.2, hdec.anyResume_iff.mp hresume⟩ hstuck

/-- An admissible assignment that pauses every robot of the component makes all-Pause admissible. -/
lemma Admissible.of_pause {x : RobotId → Action} (hx : Admissible constraints hard x)
    (h : SearchInput ordered constraints hard clauses) (hpause : ∀ r ∈ ordered, x r = .pause) :
    Admissible constraints hard fun _ => .pause := by
  refine ⟨hx.1.congr fun pair hpair => ?_, fun r a hra => ?_⟩
  · exact ⟨hpause _ (h.inside pair hpair).1, hpause _ (h.inside pair hpair).2⟩
  · rw [← hx.2 r a hra, hpause r (h.hard_mem r (Dict.mem_of_lookup hra))]

/-- Where progress is impossible and all-Pause is admissible if anything is, the fail-safe stage
solves the component. -/
lemma failSafe_solves (h : SearchInput ordered constraints hard clauses)
    (hstuck : ¬ CanProgress ordered constraints hard)
    (hpause : (∃ x, Admissible constraints hard x) ↔ Admissible constraints hard fun _ => .pause) :
    ∃ r, failSafeResult ordered constraints hard = .ok r ∧
      Solves ordered constraints hard r.val := by
  obtain ⟨r, hr, hprog, hsource, hfeas, hdec⟩ := failSafeResult_spec h
  refine ⟨r, hr, ?_⟩
  exact
    { feasible_iff := hfeas.trans hpause.symm
      progress_iff := by simp [hprog, hstuck]
      decides := hdec
      resumes := by simp [hprog]
      feasible_of_progress := by simp [hprog]
      source := by simp [hprog, hsource] }

end Stages

/-! ## The heuristic -/

section Solve

variable {config : MonitorConfig} {component : List RobotId} {m : ConflictModel}
  {priorities : Dict RobotId PriorityBreakdown} {hard : Dict RobotId Action}

/-- The order of the component does not matter to its decisions. -/
lemma decides_sorted {constraints : List PairwiseCompatibility} {decisions : Dict RobotId Action} :
    Decides (sorted component) constraints hard decisions ↔
      Decides component constraints hard decisions := by
  simp only [Decides, mem_sorted]

/-- Nor to whether it can progress. -/
lemma canProgress_sorted {constraints : List PairwiseCompatibility} :
    CanProgress (sorted component) constraints hard ↔ CanProgress component constraints hard := by
  simp only [CanProgress, mem_sorted]

/-- Solving the sorted component is solving the component. -/
lemma Solves.of_sorted {constraints : List PairwiseCompatibility} {r : HeuristicFields}
    (h : Solves (sorted component) constraints hard r) : Solves component constraints hard r where
  feasible_iff := h.feasible_iff
  progress_iff := h.progress_iff.trans canProgress_sorted
  decides hfeas := decides_sorted.mp (h.decides hfeas)
  resumes hprog := by simpa only [mem_sorted] using h.resumes hprog
  feasible_of_progress := h.feasible_of_progress
  source := h.source

/-- Ranking keeps the robots. -/
lemma rankRobots_spec {ordered : List RobotId} {coefficients : Dict RobotId ℤ}
    (h : ∀ r ∈ ordered, r ∈ coefficients) :
    ∃ ranked, rankRobots ordered coefficients = .ok ranked ∧ ∀ r, r ∈ ranked ↔ r ∈ ordered := by
  obtain ⟨keyed, hkeyed⟩ := mapM_total (l := ordered)
    (f := fun r => do return (-(← item coefficients r), r)) (by
      intro r hr
      obtain ⟨c, hc⟩ := Dict.exists_lookup (h r hr)
      exact ⟨_, by rw [item_eq_ok.mpr hc]; rfl⟩)
  have hsnd : keyed.map Prod.snd = ordered := by
    have := map_of_mapM (g := Prod.snd) (k := id) hkeyed fun r entry hentry => by
      obtain ⟨c, -, heq⟩ := bind_eq_ok.mp hentry
      rw [← Except.ok.inj heq]
      rfl
    simpa using this
  refine ⟨_, by rw [rankRobots, hkeyed]; rfl, fun r => ?_⟩
  rw [((sortedBy_perm _ keyed).map Prod.snd).mem_iff, hsnd]

/-- Decisions with a Resume give a progressing result. -/
lemma progressing_total {decisions : Dict RobotId Action} (hresume : anyResume decisions = true)
    (source : DecisionSource) (hsource : source ≠ .failSafe) :
    ∃ r, progressing decisions source = .ok r ∧ r.val.feasible = true ∧
      r.val.progressMade = true ∧ r.val.decisions = decisions ∧ r.val.decisionSource = source := by
  obtain ⟨robotId, hr⟩ := anyResume_iff.mp hresume
  have hne : decisions.keys ≠ [] := List.ne_nil_of_mem (AList.mem_keys.mp (Dict.mem_of_lookup hr))
  refine ⟨_, validate_of_accepted ?_, rfl, rfl, rfl, rfl⟩
  unfold HeuristicFields.postInit
  simp only [bind_eq_ok, raiseIf_eq_ok]
  simp [hne, hsource]

/-- The clauses of a checked component are input for the search. -/
lemma searchInput (hinput : ComponentInput component m priorities hard) :
    ∃ clauses, buildClauses (componentConstraints component m) = .ok clauses ∧
      SearchInput (sorted component) (componentConstraints component m) hard clauses := by
  obtain ⟨clauses, hclauses, hsat, hmem⟩ := buildClauses_spec (componentConstraints component m)
  have hinside := componentConstraints_inside component m
  refine ⟨clauses, hclauses, ?_⟩
  exact
    { nonempty := by rw [ne_eq, sorted_eq_nil]; exact hinput.nonempty
      nodup := sorted_nodup.mpr hinput.nodup
      inside := by simpa only [mem_sorted] using hinside
      hard_mem := by simpa only [mem_sorted] using hinput.hard_mem
      clause_mem := fun r hr => by
        obtain ⟨pair, hpair, rfl | rfl⟩ := hmem r hr
        · exact mem_sorted.mpr (hinside pair hpair).1
        · exact mem_sorted.mpr (hinside pair hpair).2
      satisfies_iff := hsat }

/-- What the heuristic prepares for its passes: the clauses, the ranking and their input. -/
lemma solve_prepared (hinput : ComponentInput component m priorities hard)
    {objective : Validated ObjectiveEncoding.postInit}
    (hobj : buildObjectiveEncoding (sorted component) priorities = .ok objective) :
    ∃ clauses ranked, buildClauses (componentConstraints component m) = .ok clauses ∧
      rankRobots (sorted component) objective.val.coefficients = .ok ranked ∧
      (∀ r, r ∈ ranked ↔ r ∈ sorted component) ∧
      SearchInput (sorted component) (componentConstraints component m) hard clauses := by
  obtain ⟨clauses, hclauses, h⟩ := searchInput hinput
  obtain ⟨ranked, hranked, hmem⟩ := rankRobots_spec
    fun r (hr : r ∈ sorted component) => (mem_coefficients_of_buildObjectiveEncoding hobj r).mpr hr
  exact ⟨clauses, ranked, hclauses, hranked, hmem, h⟩

/-- Every robot of a checked component has a priority. -/
lemma ComponentInput.mem_priorities (hinput : ComponentInput component m priorities hard) :
    ∀ r ∈ sorted component, r ∈ priorities := by
  intro r hr
  obtain ⟨p, hp, -⟩ := hinput.scored r (mem_sorted.mp hr)
  exact Dict.mem_of_lookup hp

/-- The passes of `solve`, once its input is prepared. -/
lemma solve_eq (config : MonitorConfig) (hinput : ComponentInput component m priorities hard)
    {objective : Validated ObjectiveEncoding.postInit}
    (hobj : buildObjectiveEncoding (sorted component) priorities = .ok objective)
    {clauses : List BinaryClause} {ranked : List RobotId}
    (hclauses : buildClauses (componentConstraints component m) = .ok clauses)
    (hranked : rankRobots (sorted component) objective.val.coefficients = .ok ranked) :
    solve config component m priorities hard = (do
      let greedy ← greedyDecisions (sorted component) (greedyPass ranked (seedOf hard) clauses)
        (componentConstraints component m) hard
      match greedy.filter fun decisions => anyResume decisions with
      | some decisions => progressing decisions .heuristic
      | none => do
        let repaired ← repairPass (sorted component) clauses (componentConstraints component m)
          hard config ranked (seedOf hard) priorities
        match repaired with
        | some decisions => progressing decisions .repair
        | none => failSafeResult (sorted component) (componentConstraints component m) hard) := by
  unfold solve
  rw [checkedComponent_eq_ok.mpr ⟨rfl, hinput⟩, ok_bind]
  dsimp only
  rw [hclauses, ok_bind, hobj, ok_bind, hranked, ok_bind]
  rfl

/-- **The heuristic is exact**: on checked input with an encodable objective it returns, the
result solves the component, and feasible decisions are lexicographically greatest in rank order.

**Proof sketch.** If nothing is admissible the greedy stage fails, the repair pass finds nothing
and all-Pause is not admissible. Otherwise the greedy stage decides the component; if it pauses
every robot, no admissible assignment resumes one, so the repair pass finds nothing again and
all-Pause is admissible. -/
lemma solve_exact (config : MonitorConfig) (hinput : ComponentInput component m priorities hard)
    {objective : Validated ObjectiveEncoding.postInit}
    (hobj : buildObjectiveEncoding (sorted component) priorities = .ok objective)
    {ranked : List RobotId}
    (hranked : rankRobots (sorted component) objective.val.coefficients = .ok ranked) :
    ∃ r, solve config component m priorities hard = .ok r ∧
      Solves component (componentConstraints component m) hard r.val ∧
      (r.val.feasible = true → ∀ x, Admissible (componentConstraints component m) hard x →
        rankProfile ranked x ≤ rankProfile ranked (actionOf r.val.decisions)) := by
  obtain ⟨clauses, ranked', hclauses, hranked', hmem, h⟩ := solve_prepared hinput hobj
  obtain rfl := Except.ok.inj (hranked.symm.trans hranked')
  rw [solve_eq config hinput hobj hclauses hranked]
  have hrepair : ¬ CanProgress component (componentConstraints component m) hard →
      repairPass (sorted component) clauses (componentConstraints component m) hard config ranked
        (seedOf hard) priorities = .ok none := fun hstuck =>
    repairPass_of_stuck h config ranked priorities hinput.mem_priorities
      (mt canProgress_sorted.mp hstuck)
  rcases greedyDecisions_spec h hmem with ⟨hgreedy, hnone⟩ | ⟨decisions, hgreedy, hdec, hbest, htop⟩
  · rw [hgreedy, ok_bind, Option.filter_none]
    obtain ⟨r, hr, hsolves⟩ := failSafe_solves h (fun hcan => hnone ⟨_, hcan.choose_spec.1⟩)
      ⟨fun hx => absurd hx hnone, fun hx => ⟨_, hx⟩⟩
    refine ⟨r, ?_, hsolves.of_sorted, fun hfeas => absurd (hsolves.feasible_iff.mp hfeas) hnone⟩
    dsimp only
    rw [hrepair (fun hcan => hnone ⟨_, hcan.choose_spec.1⟩), ok_bind]
    exact hr
  rw [hgreedy, ok_bind]
  by_cases hresume : anyResume decisions = true
  · obtain ⟨r, hr, hfeas, hprog, hdecs, hsource⟩ :=
      progressing_total hresume .heuristic (by decide)
    rw [Option.filter_some, if_pos hresume]
    have hany := hdec.anyResume_iff.mp hresume
    have hsolves : Solves (sorted component) (componentConstraints component m) hard r.val :=
      { feasible_iff := by simpa [hfeas] using ⟨_, hdec.2⟩
        progress_iff := by simpa [hprog] using ⟨_, hdec.2, hany⟩
        decides := fun _ => by rwa [hdecs]
        resumes := fun _ => by rwa [hdecs]
        feasible_of_progress := fun _ => hfeas
        source := by simp [hprog, hsource] }
    exact ⟨r, hr, hsolves.of_sorted, fun _ => by rwa [hdecs]⟩
  · rw [Option.filter_some, if_neg hresume]
    have hstuck : ¬ CanProgress (sorted component) (componentConstraints component m) hard :=
      fun hcan => hresume (hbest hcan)
    -- the decisions themselves pause every robot
    have hpause : ∀ r, r ∈ sorted component → actionOf decisions r = .pause := by
      intro r hr
      refine Action.ne_resume_iff.mp fun hact => hresume ?_
      exact hdec.anyResume_iff.mpr ⟨r, hr, hact⟩
    obtain ⟨r, hr, hsolves⟩ := failSafe_solves h hstuck
      ⟨fun _ => hdec.2.of_pause h hpause, fun hx => ⟨_, hx⟩⟩
    refine ⟨r, ?_, hsolves.of_sorted, fun hfeas x hx => le_of_eq ?_⟩
    · dsimp only
      rw [hrepair (mt canProgress_sorted.mpr hstuck), ok_bind]
      exact hr
    · -- without progress every admissible assignment pauses the component
      have hzero : ∀ y, Admissible (componentConstraints component m) hard y →
          ∀ v ∈ ranked, y v = .pause := fun y hy v hv =>
        Action.ne_resume_iff.mp fun hres => hstuck ⟨y, hy, v, (hmem v).mp hv, hres⟩
      exact List.map_congr_left fun v hv => by
        rw [hzero x hx v hv, hzero _ (hsolves.decides hfeas).2 v hv]

/-- **Every result solves its component.** -/
theorem solve_spec {r : HeuristicResult}
    (h : solve config component m priorities hard = .ok r) :
    Solves component (componentConstraints component m) hard r.val := by
  obtain ⟨ordered, hcheck, hrest⟩ := bind_eq_ok.mp h
  obtain ⟨rfl, hinput⟩ := checkedComponent_eq_ok.mp hcheck
  obtain ⟨clauses, -, hrest⟩ := bind_eq_ok.mp hrest
  obtain ⟨objective, hobj, hrest⟩ := bind_eq_ok.mp hrest
  obtain ⟨ranked, hranked, -⟩ := bind_eq_ok.mp hrest
  obtain ⟨r', hr', hsolves, -⟩ := solve_exact config hinput hobj hranked
  rw [h] at hr'
  rw [Except.ok.inj hr']
  exact hsolves

/-- **The heuristic never raises** on checked input whose coefficients fit. -/
theorem solve_total (hinput : ComponentInput component m priorities hard)
    (hfit : CoefficientsFit component priorities) :
    ∃ r, solve config component m priorities hard = .ok r := by
  obtain ⟨objective, hobj⟩ := buildObjectiveEncoding_total (sorted component)
    priorities hinput.mem_priorities (by
      intro r hr coefficients hcoeff
      rw [sorted_eq_self (pairwise_sorted_lt hinput.nodup)] at hcoeff
      exact hfit r (mem_sorted.mp hr) coefficients hcoeff)
  obtain ⟨_, ranked, -, hranked, -⟩ := solve_prepared hinput hobj
  obtain ⟨r, hr, -⟩ := solve_exact config hinput hobj hranked
  exact ⟨r, hr⟩

end Solve

end CollisionMonitor
