import CollisionMonitor.Config
import CollisionMonitor.Geometry
import CollisionMonitor.Lib.TwoClause

set_option relaxedAutoImplicit false
set_option autoImplicit false

/-!
# Pairwise compatibility, no-goods and the conflict graph

The conflict model of one tick (`conflicts.py`): the safety of the four action combinations of
each robot pair, the no-good clauses they give, the conflict graph and its connected components.

## Main definitions

* `PairwiseCompatibility`, `NoGoodConstraint` — the pairwise records and their clauses.
* `buildAdjacency`, `decomposeConnectedComponents` — the graph and its breadth-first components.
* `ConflictModel`, `buildConflictModel` — the model built from a snapshot list.
-/

namespace CollisionMonitor

open Outcome

/-- `repr` of a robot ID of printable characters without quotes and backslashes. Other IDs are shown
in another way, which is seen in the messages of exceptions only. -/
def pyRepr (robotId : RobotId) : String := "'" ++ robotId.val ++ "'"

/-- `repr` of a list of robot IDs. -/
def pyReprList (robotIds : List RobotId) : String :=
  "[" ++ String.intercalate ", " (robotIds.map pyRepr) ++ "]"

/-! ## Action pairs and no-goods -/

/-- The action pairs in stable Pause-before-Resume order. -/
def actionAssignments : List (Action × Action) :=
  [(.pause, .pause), (.pause, .resume), (.resume, .pause), (.resume, .resume)]

/-- Every pair of actions is listed. -/
@[simp] lemma mem_actionAssignments (p : Action × Action) : p ∈ actionAssignments := by
  obtain ⟨a, b⟩ := p
  cases a <;> cases b <;> decide

/-- Encode Pause as zero and Resume as one for Boolean decision variables. -/
def actionToBinary : Action → Fin 2
  | .pause => 0
  | .resume => 1

/-- The action a binary value stands for. -/
def binaryToAction (value : Fin 2) : Action := if value = 1 then .resume else .pause

/-- An action is decoded from its value. -/
@[simp] lemma binaryToAction_actionToBinary (a : Action) :
    binaryToAction (actionToBinary a) = a := by
  cases a <;> rfl

/-- A value is encoded from its action. -/
@[simp] lemma actionToBinary_binaryToAction (value : Fin 2) :
    actionToBinary (binaryToAction value) = value := by
  revert value
  decide

/-- Actions with the same value are the same. -/
lemma actionToBinary_inj {a b : Action} : actionToBinary a = actionToBinary b ↔ a = b := by
  cases a <;> cases b <;> decide

/-- A literal requiring one binary variable to differ from a value. -/
structure NoGoodLiteral where
  robotId : RobotId
  forbiddenValue : Fin 2

/-- A disjunction of inequality literals with source geometry provenance. -/
structure NoGoodConstraint where
  literals : List NoGoodLiteral
  sourcePair : RobotId × RobotId
  sourceAssignment : Action × Action
  literals_ne : literals ≠ []
  ordered : sourcePair.1 < sourcePair.2

/-- Whether every literal is false under a complete assignment. -/
def NoGoodConstraint.isViolatedBy (noGood : NoGoodConstraint)
    (assignment : Dict RobotId (Fin 2)) : Except PyException Bool :=
  noGood.literals.allM fun literal => do
    return (← item assignment literal.robotId) == literal.forbiddenValue

/-- The no-good clause in a concise diagnostic form. -/
def NoGoodConstraint.expression (noGood : NoGoodConstraint) : String :=
  String.intercalate " OR " (noGood.literals.map fun literal =>
    "x[" ++ literal.robotId.val ++ "] != " ++ toString literal.forbiddenValue.val)

/-- Safety results and diagnostics for every action pair of two robots. All four assignments
are present by type, and the robot IDs are distinct and deterministically ordered. -/
structure PairwiseCompatibility where
  robotI : RobotId
  robotJ : RobotId
  compatibility : Action → Action → Bool
  envelopeBounds : Action → Action → Bounds × Bounds
  ordered : robotI < robotJ

namespace PairwiseCompatibility

/-- The deterministically ordered pair of robot IDs. -/
def robotPair (pair : PairwiseCompatibility) : RobotId × RobotId := (pair.robotI, pair.robotJ)

/-- The recorded safety result for one action assignment. -/
def isSafe (pair : PairwiseCompatibility) (actionI actionJ : Action) : Bool :=
  pair.compatibility actionI actionJ

/-- Unsafe action pairs in stable Pause-before-Resume order. -/
def forbiddenAssignments (pair : PairwiseCompatibility) : List (Action × Action) :=
  actionAssignments.filter fun assignment => !pair.compatibility assignment.1 assignment.2

/-- The no-good clause that rules out one action pair. -/
def noGood (pair : PairwiseCompatibility) (assignment : Action × Action) : NoGoodConstraint where
  literals := [⟨pair.robotI, actionToBinary assignment.1⟩,
    ⟨pair.robotJ, actionToBinary assignment.2⟩]
  sourcePair := pair.robotPair
  sourceAssignment := assignment
  literals_ne := by simp
  ordered := pair.ordered

/-- Translate every unsafe action pair into a binary no-good clause. -/
def noGoodConstraints (pair : PairwiseCompatibility) : List NoGoodConstraint :=
  pair.forbiddenAssignments.map pair.noGood

/-- The forbidden combinations are the unsafe ones. -/
lemma mem_forbiddenAssignments {pair : PairwiseCompatibility} {a b : Action} :
    (a, b) ∈ pair.forbiddenAssignments ↔ pair.isSafe a b = false := by
  simp [forbiddenAssignments, isSafe]

/-- A pair forbids something iff it is unsafe somewhere. -/
lemma forbiddenAssignments_ne_nil {pair : PairwiseCompatibility} :
    pair.forbiddenAssignments ≠ [] ↔ ∃ a b, pair.isSafe a b = false := by
  rw [← List.isEmpty_eq_false_iff, List.isEmpty_eq_false_iff_exists_mem]
  exact ⟨fun ⟨⟨a, b⟩, h⟩ => ⟨a, b, mem_forbiddenAssignments.mp h⟩,
    fun ⟨a, b, h⟩ => ⟨(a, b), mem_forbiddenAssignments.mpr h⟩⟩

/-- The two robots of a pair differ. -/
lemma robotI_ne_robotJ (pair : PairwiseCompatibility) : pair.robotI ≠ pair.robotJ :=
  pair.ordered.ne

end PairwiseCompatibility

/-! ## The conflict graph -/

/-- The neighbours of a robot, `adjacency.get(robot_id, frozenset())`. -/
def neighbours (adjacency : Dict RobotId (List RobotId)) (robotId : RobotId) : List RobotId :=
  (adjacency.lookup robotId).getD []

/-- Add one undirected edge to the mutable adjacency sets. -/
def addEdge (adjacency : Dict RobotId (List RobotId)) (edge : RobotId × RobotId) :
    Except PyException (Dict RobotId (List RobotId)) := do
  raiseIf (edge.1 ∉ adjacency ∨ edge.2 ∉ adjacency) (.valueError
    ("edge (" ++ pyRepr edge.1 ++ ", " ++ pyRepr edge.2 ++ ") refers to an unknown robot"))
  raiseIf (edge.2 ≤ edge.1) (.valueError
    ("edge (" ++ pyRepr edge.1 ++ ", " ++ pyRepr edge.2 ++ ") is not deterministically ordered"))
  let adjacency : Dict RobotId (List RobotId) :=
    adjacency.insert edge.1 ((neighbours adjacency edge.1).insert edge.2)
  return adjacency.insert edge.2 ((neighbours adjacency edge.2).insert edge.1)

/-- Build an undirected adjacency mapping; edges are taken in sorted order. -/
def buildAdjacency (robotIds : List RobotId) (edges : List (RobotId × RobotId)) :
    Except PyException (Dict RobotId (List RobotId)) :=
  (sortedBy toLex edges).foldlM addEdge (Dict.ofKeys (sorted robotIds) fun _ => [])

/-- Mark a neighbour that is not visited yet and append it to the queue. -/
def enqueueNeighbour (adjacency : Dict RobotId (List RobotId))
    (state : List RobotId × List RobotId) (neighbour : RobotId) :
    Except PyException (List RobotId × List RobotId) := do
  raiseIf (neighbour ∉ adjacency)
    (.valueError ("adjacency refers to unknown robot " ++ pyRepr neighbour))
  return if neighbour ∈ state.1 then state else (neighbour :: state.1, state.2 ++ [neighbour])

/-- The inner `while queue` loop, bounded by a number of passes: every pass pops a robot that
was marked once, so as many passes as there are robots always empty the queue
(`visitComponent_spec`). -/
def visitComponent (adjacency : Dict RobotId (List RobotId)) :
    ℕ → List RobotId → List RobotId → List RobotId →
      Except PyException (List RobotId × List RobotId)
  | _, visited, [], component => .ok (visited, component)
  | 0, _, _ :: _, _ => .error (.runtimeError "breadth-first search did not terminate")
  | passes + 1, visited, robotId :: queue, component => do
    let adjacent ← item adjacency robotId
    let (visited, queue) ← (sorted adjacent).foldlM (enqueueNeighbour adjacency) (visited, queue)
    visitComponent adjacency passes visited queue (component ++ [robotId])

/-- One root of the outer loop: skip it when visited, else search its component. -/
def visitRoot (adjacency : Dict RobotId (List RobotId))
    (state : List RobotId × List (List RobotId)) (root : RobotId) :
    Except PyException (List RobotId × List (List RobotId)) :=
  if root ∈ state.1 then .ok state
  else do
    let (visited, component) ←
      visitComponent adjacency adjacency.keys.length (root :: state.1) [root] []
    return (visited, state.2 ++ [sorted component])

/-- Stable connected components using deterministic breadth-first search. -/
def decomposeConnectedComponents (adjacency : Dict RobotId (List RobotId)) :
    Except PyException (List (List RobotId)) := do
  let (_, components) ← (sorted adjacency.keys).foldlM (visitRoot adjacency) ([], [])
  return components

/-! ## The conflict model -/

/-- Pairwise constraints and graph decomposition for one tick. -/
structure ConflictModel where
  snapshots : Dict RobotId RobotSnapshot
  pairwiseConstraints : List PairwiseCompatibility
  noGoodConstraints : List NoGoodConstraint
  edges : List (RobotId × RobotId)
  adjacency : Dict RobotId (List RobotId)
  isolatedRobots : List RobotId
  connectedComponents : List (List RobotId)

/-- The pairwise constraints wholly contained in one component. -/
def componentConstraints (component : List RobotId) (conflictModel : ConflictModel) :
    List PairwiseCompatibility :=
  conflictModel.pairwiseConstraints.filter fun pair =>
    decide (pair.robotI ∈ component) && decide (pair.robotJ ∈ component)

/-- The constraints of a component are those between two of its robots. -/
lemma mem_componentConstraints {component : List RobotId} {conflictModel : ConflictModel}
    {pair : PairwiseCompatibility} : pair ∈ componentConstraints component conflictModel ↔
      pair ∈ conflictModel.pairwiseConstraints ∧ pair.robotI ∈ component ∧
        pair.robotJ ∈ component := by
  simp [componentConstraints]

section Build

variable {E : Type} (geometry : Geometry E)

/-- Both envelopes of one robot. -/
def robotEnvelopes (snapshot : RobotSnapshot) : Except PyException (Action → E) := do
  let pause ← geometry.actionEnvelope snapshot .pause
  let resume ← geometry.actionEnvelope snapshot .resume
  return fun
    | .pause => pause
    | .resume => resume

/-- Construct each robot/action envelope exactly once for a model build. -/
def buildEnvelopeCache (snapshots : List RobotSnapshot) :
    Except PyException (Dict RobotId (Action → E)) :=
  Dict.collect RobotSnapshot.deviceId (robotEnvelopes geometry) snapshots

/-- Compare the four action combinations of an ordered pair of robots. -/
def compareEnvelopes (robotI robotJ : RobotId) (ordered : robotI < robotJ)
    (envelopes : Dict RobotId (Action → E)) : Except PyException PairwiseCompatibility := do
  let envelopesI ← item envelopes robotI
  let envelopesJ ← item envelopes robotJ
  return {
    robotI, robotJ, ordered
    compatibility := fun a b => !geometry.geometriesConflict (envelopesI a) (envelopesJ b)
    envelopeBounds := fun a b => (geometry.bounds (envelopesI a), geometry.bounds (envelopesJ b)) }

/-- Evaluate four action assignments using pre-built envelopes. -/
def evaluateCachedPair (snapshotI snapshotJ : RobotSnapshot)
    (envelopes : Dict RobotId (Action → E)) : Except PyException PairwiseCompatibility :=
  if h : snapshotI.deviceId < snapshotJ.deviceId then
    compareEnvelopes geometry snapshotI.deviceId snapshotJ.deviceId h envelopes
  else if h : snapshotJ.deviceId < snapshotI.deviceId then
    compareEnvelopes geometry snapshotJ.deviceId snapshotI.deviceId h envelopes
  else .error (.valueError
    ("duplicate robot ID " ++ pyRepr snapshotI.deviceId ++ " in candidate pair"))

/-- Sort snapshots and reject duplicate robot IDs before geometry evaluation. -/
def normaliseModelSnapshots (snapshots : List RobotSnapshot) :
    Except PyException (List RobotSnapshot) := do
  let ordered := sortedBy RobotSnapshot.deviceId snapshots
  (ordered.zip ordered.tail).forM fun (previous, current) =>
    raiseIf (previous.deviceId = current.deviceId)
      (.valueError ("duplicate robot ID " ++ pyRepr current.deviceId ++ " in snapshots"))
  return ordered

/-- Evaluate one candidate pair unless it has been evaluated already. -/
def addCandidate (snapshotsById : Dict RobotId RobotSnapshot)
    (envelopes : Dict RobotId (Action → E))
    (constraintsByPair : Dict (RobotId × RobotId) PairwiseCompatibility)
    (candidate : RobotSnapshot × RobotSnapshot) :
    Except PyException (Dict (RobotId × RobotId) PairwiseCompatibility) := do
  let idA := candidate.1.deviceId
  let idB := candidate.2.deviceId
  raiseIf (idA = idB) (.valueError ("candidate pair repeats robot ID " ++ pyRepr idA))
  raiseIf (idA ∉ snapshotsById ∨ idB ∉ snapshotsById) (.valueError
    ("candidate pair (" ++ pyRepr idA ++ ", " ++ pyRepr idB ++ ") contains an unknown robot"))
  let pair := if idA ≤ idB then (idA, idB) else (idB, idA)
  if pair ∈ constraintsByPair then
    return constraintsByPair
  let compatibility ← evaluateCachedPair geometry (← item snapshotsById pair.1)
    (← item snapshotsById pair.2) envelopes
  return constraintsByPair.insert pair compatibility

/-- Yield all unordered pairs sorted by robot ID. -/
def allPairsCandidates (snapshots : List RobotSnapshot) : List (RobotSnapshot × RobotSnapshot) :=
  combinations (sortedBy RobotSnapshot.deviceId snapshots)

/-- Evaluate candidate pairs and build deterministic constraints and components. -/
def buildConflictModelWith
    (generate : List RobotSnapshot → List (RobotSnapshot × RobotSnapshot))
    (snapshots : List RobotSnapshot) : Except PyException ConflictModel := do
  let ordered ← normaliseModelSnapshots snapshots
  let snapshotsById := Dict.ofPairs (ordered.map fun snapshot => (snapshot.deviceId, snapshot))
  let envelopes ← buildEnvelopeCache geometry ordered
  let constraintsByPair ←
    (generate ordered).foldlM (addCandidate geometry snapshotsById envelopes) ∅
  let pairwiseConstraints :=
    (sortedBy toLex constraintsByPair.keys).filterMap fun pair => constraintsByPair.lookup pair
  let edges := (pairwiseConstraints.filter fun constraint =>
    !constraint.forbiddenAssignments.isEmpty).map PairwiseCompatibility.robotPair
  let adjacency ← buildAdjacency snapshotsById.keys edges
  let isolatedRobots := (sorted adjacency.keys).filter fun robotId =>
    (neighbours adjacency robotId).isEmpty
  let connectedComponents ← decomposeConnectedComponents adjacency
  let noGoodConstraints := pairwiseConstraints.flatMap PairwiseCompatibility.noGoodConstraints
  return {
    snapshots := snapshotsById
    pairwiseConstraints, noGoodConstraints, edges, adjacency, isolatedRobots
    connectedComponents }

/-- The shipped builder: every unordered pair is a candidate. -/
def buildConflictModel (snapshots : List RobotSnapshot) : Except PyException ConflictModel :=
  buildConflictModelWith geometry allPairsCandidates snapshots

end Build

end CollisionMonitor
