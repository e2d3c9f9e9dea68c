import CollisionMonitor.Optimiser

set_option relaxedAutoImplicit false
set_option autoImplicit false

/-!
# The deterministic fallback

One greedy pass with unit-style propagation and one bounded repair pass over the two-literal
clauses of a component (`heuristic.py`).

## Main definitions

* `BinaryClause`, `propagate` — the clauses and their propagation to a fixed point.
* `greedyPass`, `repairPass` — the two passes.
* `HeuristicResult`, `solve` — the checked outcome of a component.
-/

namespace CollisionMonitor

open Outcome

/-! ## Clauses and propagation -/

/-- A two-literal no-good clause used by propagation. -/
structure BinaryClause where
  literals : NoGoodLiteral × NoGoodLiteral
  source : NoGoodConstraint

/-- Convert a pairwise no-good while rejecting unsupported arity. -/
def BinaryClause.fromNoGood (noGood : NoGoodConstraint) : Except PyException BinaryClause :=
  match noGood.literals with
  | [left, right] => .ok { literals := (left, right), source := noGood }
  | _ => .error (.valueError "heuristic requires exactly two literals per no-good")

/-- Build stable two-literal clauses directly from pairwise constraints. -/
def buildClauses (pairwiseConstraints : List PairwiseCompatibility) :
    Except PyException (List BinaryClause) :=
  (componentNoGoods pairwiseConstraints).mapM BinaryClause.fromNoGood

/-- A partial binary assignment. -/
abbrev BinaryAssignment := Dict RobotId (Fin 2)

/-- Assign a binary value, failing on a conflicting existing value. -/
def assignBinary (assignment : BinaryAssignment) (robotId : RobotId) (value : Fin 2) :
    Option BinaryAssignment :=
  match assignment.lookup robotId with
  | some existing => if existing = value then some assignment else none
  | none => some (assignment.insert robotId value)

/-- The literal is already true. -/
def satisfiesLiteral (assignment : BinaryAssignment) (literal : NoGoodLiteral) : Bool :=
  match assignment.lookup literal.robotId with
  | some value => value != literal.forbiddenValue
  | none => false

/-- One clause of a propagation pass: skip it when satisfied, fail when every literal is false,
and force the last open literal. The flag records that the pass changed the assignment. -/
def propagateClause (state : BinaryAssignment × Bool) (clause : BinaryClause) :
    Option (BinaryAssignment × Bool) :=
  let literals := [clause.literals.1, clause.literals.2]
  if literals.any (satisfiesLiteral state.1) then some state
  else match literals.filter fun literal => literal.robotId ∉ state.1 with
    | [] => none
    | [literal] => do
      let assignment ← assignBinary state.1 literal.robotId (1 - literal.forbiddenValue)
      return (assignment, true)
    | _ => some state

/-- The `while changed` loop, bounded by a number of passes. Every pass but the last assigns a
robot of a clause, so `2 * clauses.length + 1` passes always reach the fixed point
(`propagateLoop_runs`). -/
def propagateLoop (clauses : List BinaryClause) : ℕ → BinaryAssignment → Option BinaryAssignment
  | 0, assignment => some assignment
  | passes + 1, assignment => do
    let (assignment, changed) ← clauses.foldlM propagateClause (assignment, false)
    if changed then propagateLoop clauses passes assignment else return assignment

/-- Apply unit-style propagation until fixed point or contradiction. -/
def propagate (assignment : BinaryAssignment) (clauses : List BinaryClause) :
    Option BinaryAssignment :=
  propagateLoop clauses (2 * clauses.length + 1) assignment

/-- Try one branch in a copied assignment and propagate its consequences. -/
def tryAssignment (assignment : BinaryAssignment) (robotId : RobotId) (value : Fin 2)
    (clauses : List BinaryClause) : Option BinaryAssignment := do
  let trial ← assignBinary assignment robotId value
  propagate trial clauses

/-! ## The passes -/

/-- Try Resume then Pause for one robot that is not assigned yet. -/
def greedyStep (clauses : List BinaryClause) (assignment : BinaryAssignment) (robotId : RobotId) :
    Option BinaryAssignment :=
  if robotId ∈ assignment then some assignment
  else match tryAssignment assignment robotId 1 clauses with
    | some resumeTrial => some resumeTrial
    | none => tryAssignment assignment robotId 0 clauses

/-- Try Resume then Pause once for every highest-ranked unassigned robot. -/
def greedyPass (rankedRobots : List RobotId) (seedAssignment : BinaryAssignment)
    (clauses : List BinaryClause) : Option BinaryAssignment := do
  let assignment ← propagate seedAssignment clauses
  rankedRobots.foldlM (greedyStep clauses) assignment

/-- Convert a complete stable binary assignment to actions. -/
def actionsFromBinary (component : List RobotId) (assignment : BinaryAssignment) :
    Except PyException (Dict RobotId Action) :=
  Dict.collect id (fun robotId => do
    return if (← item assignment robotId) = 1 then .resume else .pause) (sorted component)

/-- Whether some robot of the dictionary resumes. -/
def anyResume (decisions : Dict RobotId Action) : Bool :=
  decisions.entries.any fun entry => entry.2 == .resume

/-- Whether every robot of the dictionary pauses. -/
def allPause (decisions : Dict RobotId Action) : Bool :=
  decisions.entries.all fun entry => entry.2 == .pause

/-- Pause one robot that the escape left unassigned. -/
def pauseStep (clauses : List BinaryClause) (trial : BinaryAssignment) (robotId : RobotId) :
    Option BinaryAssignment :=
  if robotId ∈ trial then some trial else tryAssignment trial robotId 0 clauses

section Repair

variable (component : List RobotId) (clauses : List BinaryClause)
  (pairwiseConstraints : List PairwiseCompatibility) (hardAssignments : Dict RobotId Action)

/-- The escape loop: the first candidate whose Resume completes to a progressing assignment. -/
def escapeLoop (base : BinaryAssignment) :
    List RobotId → Except PyException (Option (Dict RobotId Action))
  | [] => .ok none
  | escapeRobot :: candidates =>
    if base.lookup escapeRobot = some 0 then escapeLoop base candidates
    else match tryAssignment base escapeRobot 1 clauses with
      | none => escapeLoop base candidates
      | some trial => match (sorted component).foldlM (pauseStep clauses) trial with
        | none => escapeLoop base candidates
        | some trial =>
          if trial.keys.length ≠ component.length then escapeLoop base candidates
          else do
            let decisions ← actionsFromBinary component trial
            if anyResume decisions then
              validateComponentDecisions component decisions pairwiseConstraints hardAssignments
              return some decisions
            else escapeLoop base candidates

/-- Try one escape robot and any group forced by unit propagation. -/
def repairPass (config : MonitorConfig) (rankedRobots : List RobotId)
    (seedAssignment : BinaryAssignment) (priorities : Dict RobotId PriorityBreakdown) :
    Except PyException (Option (Dict RobotId Action)) :=
  match propagate seedAssignment clauses with
  | none => .ok none
  | some base => do
    let keyed ← component.mapM fun robotId => do
      let priority ← item priorities robotId
      return ((-priority.val.clearanceConflictCount, rankedRobots.idxOf robotId, robotId), robotId)
    let candidates := (sortedBy (fun entry : (ℤ × ℕ × RobotId) × RobotId =>
      toLex (entry.1.1, toLex (entry.1.2.1, entry.1.2.2))) keyed).map Prod.snd
    escapeLoop component clauses pairwiseConstraints hardAssignments base
      (candidates.take config.heuristicMaximumRepairCandidates.toNat)

end Repair

/-! ## Solving a component -/

/-- The fields of `HeuristicResult`. -/
structure HeuristicFields where
  feasible : Bool
  decisions : Dict RobotId Action
  decisionSource : DecisionSource
  progressMade : Bool
  fallbackReason : Option String

/-- The checks of `HeuristicResult.__post_init__`. -/
def HeuristicFields.postInit (r : HeuristicFields) : Except PyException Unit := do
  raiseIf (r.feasible = true ∧ r.decisions.keys = [])
    (.valueError "a feasible heuristic result must contain decisions")
  raiseIf (r.feasible = false ∧ r.decisions.keys ≠ [])
    (.valueError "an infeasible heuristic result cannot contain decisions")
  raiseIf (r.progressMade = true ∧ r.feasible = false)
    (.valueError "an infeasible result cannot report progress")
  raiseIf (r.progressMade = true ∧ r.decisionSource = .failSafe)
    (.valueError "fail-safe decisions cannot report progress")
  raiseIf (r.progressMade = false ∧ r.decisionSource ≠ .failSafe)
    (.valueError "a no-progress result must identify the fail-safe source")
  raiseIf (r.progressMade = true ∧ r.fallbackReason ≠ none)
    (.valueError "a progressing result cannot contain a fallback reason")
  raiseIf (r.progressMade = false ∧ r.fallbackReason = none)
    (.valueError "a no-progress result must contain a fallback reason")

/-- A validated fallback assignment or an explicit infeasibility outcome. -/
abbrev HeuristicResult := Validated HeuristicFields.postInit

/-- A result whose decisions resume some robot. -/
def progressing (decisions : Dict RobotId Action) (decisionSource : DecisionSource) :
    Except PyException HeuristicResult :=
  validate HeuristicFields.postInit {
    feasible := true, decisions, decisionSource, progressMade := true, fallbackReason := none }

/-- The robots by decreasing objective coefficient, then ID. -/
def rankRobots (ordered : List RobotId) (coefficients : Dict RobotId ℤ) :
    Except PyException (List RobotId) := do
  let keyed ← ordered.mapM fun robotId => do return (-(← item coefficients robotId), robotId)
  return (sortedBy (fun entry : ℤ × RobotId => toLex entry) keyed).map Prod.snd

/-- The decisions of a complete greedy assignment, once validated; nothing when the pass failed or
left a robot unassigned. -/
def greedyDecisions (ordered : List RobotId) (greedyAssignment : Option BinaryAssignment)
    (pairwiseConstraints : List PairwiseCompatibility) (hardActions : Dict RobotId Action) :
    Except PyException (Option (Dict RobotId Action)) :=
  match greedyAssignment with
  | none => .ok none
  | some assignment =>
    if assignment.keys.length = ordered.length then do
      let decisions ← actionsFromBinary ordered assignment
      validateComponentDecisions ordered decisions pairwiseConstraints hardActions
      return some decisions
    else .ok none

/-- The all-Pause result, or infeasibility: an unsafe all-Pause assignment is caught. -/
def failSafeResult (ordered : List RobotId) (pairwiseConstraints : List PairwiseCompatibility)
    (hardActions : Dict RobotId Action) : Except PyException HeuristicResult :=
  let allPaused : Dict RobotId Action := Dict.ofKeys ordered fun _ => .pause
  let infeasible := validate HeuristicFields.postInit {
    feasible := false, decisions := ∅, decisionSource := .failSafe, progressMade := false
    fallbackReason := some "no_feasible_assignment_found" }
  if allPause hardActions then
    match validateComponentDecisions ordered allPaused pairwiseConstraints hardActions with
    | .error (.unsafeOptimisationResultError _) => infeasible
    | .error e => .error e
    | .ok () => validate HeuristicFields.postInit {
        feasible := true, decisions := allPaused, decisionSource := .failSafe
        progressMade := false, fallbackReason := some "no_feasible_progress" }
  else infeasible

/-- Produce a bounded safe assignment or an explicit fail-safe result. -/
def solve (config : MonitorConfig) (component : List RobotId) (conflictModel : ConflictModel)
    (priorities : Dict RobotId PriorityBreakdown) (hardAssignments : Dict RobotId Action) :
    Except PyException HeuristicResult := do
  let ordered ← checkedComponent component conflictModel priorities hardAssignments
  let pairwiseConstraints := componentConstraints component conflictModel
  let clauses ← buildClauses pairwiseConstraints
  let objective ← buildObjectiveEncoding ordered priorities
  let rankedRobots ← rankRobots ordered objective.val.coefficients
  let seedAssignment : BinaryAssignment :=
    Dict.ofPairs (hardAssignments.entries.map fun entry => (entry.1, actionToBinary entry.2))
  let greedy ← greedyDecisions ordered (greedyPass rankedRobots seedAssignment clauses)
    pairwiseConstraints hardAssignments
  match greedy.filter fun decisions => anyResume decisions with
  | some decisions => progressing decisions .heuristic
  | none => do
    let repaired ← repairPass ordered clauses pairwiseConstraints hardAssignments config
      rankedRobots seedAssignment priorities
    match repaired with
    | some decisions => progressing decisions .repair
    | none => failSafeResult ordered pairwiseConstraints hardAssignments

end CollisionMonitor
