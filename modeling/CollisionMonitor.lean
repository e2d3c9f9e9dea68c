import CollisionMonitor.Lib.Outcome
import CollisionMonitor.Lib.Collections
import CollisionMonitor.Lib.TwoClause
import CollisionMonitor.Models
import CollisionMonitor.Config
import CollisionMonitor.Geometry
import CollisionMonitor.Conflicts
import CollisionMonitor.Components
import CollisionMonitor.ConflictSpec
import CollisionMonitor.Priority
import CollisionMonitor.Optimiser
import CollisionMonitor.Heuristic
import CollisionMonitor.Propagation
import CollisionMonitor.PropagationOrder
import CollisionMonitor.HeuristicSpec
import CollisionMonitor.HeuristicOptimum
import CollisionMonitor.Encodings
import CollisionMonitor.Lib.LexWeights
import CollisionMonitor.Objective
import CollisionMonitor.Ties
import CollisionMonitor.Decomposition
import CollisionMonitor.ObjectiveRange
import CollisionMonitor.Lib.Triple
import CollisionMonitor.Lib.Machine
import CollisionMonitor.Lib.Loops
import CollisionMonitor.Grants
import CollisionMonitor.GrantSpec
import CollisionMonitor.CommitSpec
import CollisionMonitor.GrantObject
import CollisionMonitor.Engine
import CollisionMonitor.EngineSpec
import CollisionMonitor.LastDefence
import CollisionMonitor.Transaction
import CollisionMonitor.GrantLifetime
import CollisionMonitor.Availability
import CollisionMonitor.WaitingAges
import CollisionMonitor.ShippedTick
import CollisionMonitor.FleetSafety
import CollisionMonitor.DurationLimits
import CollisionMonitor.Progress
import CollisionMonitor.RightOfWay
import CollisionMonitor.Service
import CollisionMonitor.ServiceSpec
import CollisionMonitor.Staleness
import CollisionMonitor.Lib.LastMax
import CollisionMonitor.Ingestion
import CollisionMonitor.ServiceRun
import CollisionMonitor.Publication
import CollisionMonitor.MessageRounds
import CollisionMonitor.Simulator
import CollisionMonitor.SimulatorRun
import CollisionMonitor.ClosedLoop
import CollisionMonitor.LoopProgress
import CollisionMonitor.CollisionFreedom
import CollisionMonitor.Lib.PlaneConvex
import CollisionMonitor.ExactGeometry
import CollisionMonitor.ComponentView
import CollisionMonitor.SharedPart
import CollisionMonitor.BroadPhase
import CollisionMonitor.PairLookup
import CollisionMonitor.SharedTick
import CollisionMonitor.Isolation
import CollisionMonitor.BrokerSettings
import CollisionMonitor.Lib.Backoff
import CollisionMonitor.Reconnection
import CollisionMonitor.Lib.Joined
import CollisionMonitor.MessageIdentity
import CollisionMonitor.Redaction
import CollisionMonitor.Lib.Lock
import CollisionMonitor.Connections
import CollisionMonitor.StateQueue
import CollisionMonitor.QueuedExchange
import CollisionMonitor.ServiceSafety
import CollisionMonitor.Lib.Copies
import CollisionMonitor.AtLeastOnce
import CollisionMonitor.ScenarioReport
import CollisionMonitor.Lib.View
import CollisionMonitor.LatestStates
import CollisionMonitor.Lib.Broker
import CollisionMonitor.BrokerDelivery
import CollisionMonitor.Explanations
import CollisionMonitor.Lib.Fifo
import CollisionMonitor.Supervision
import CollisionMonitor.RemoteSimulation
import CollisionMonitor.RemoteSafety
import CollisionMonitor.Lib.JsonText
import CollisionMonitor.Lib.Json
import CollisionMonitor.WireFormat
import CollisionMonitor.LogRecords
