import StateFlow.Library.Ascii
import StateFlow.Library.Atomic
import StateFlow.Library.Binary64
import StateFlow.Library.Calendar
import StateFlow.Library.Decimal
import StateFlow.Library.Delivery
import StateFlow.Library.Double
import StateFlow.Library.Effect
import StateFlow.Library.Elimination
import StateFlow.Library.Fanout
import StateFlow.Library.Float64
import StateFlow.Library.Gated
import StateFlow.Library.Glob
import StateFlow.Library.Grouping
import StateFlow.Library.Locality
import StateFlow.Library.Mailbox
import StateFlow.Library.Mapping
import StateFlow.Library.Outcome
import StateFlow.Library.Ownership
import StateFlow.Library.Paging
import StateFlow.Library.ProgramLogic
import StateFlow.Library.Quantity
import StateFlow.Library.Racing
import StateFlow.Library.Ranking
import StateFlow.Library.Redaction
import StateFlow.Library.Regex
import StateFlow.Library.Register
import StateFlow.Library.Replica
import StateFlow.Library.Retention
import StateFlow.Library.Selection
import StateFlow.Library.Simulation
import StateFlow.Library.Streaming
import StateFlow.Library.Table
import StateFlow.Library.Text
import StateFlow.Library.Traversal
import StateFlow.Library.Triple
import StateFlow.Library.Truncation
import StateFlow.Library.Value
import StateFlow.Library.Versioned
import StateFlow.Construction.Adapters.Bridge
import StateFlow.Construction.Adapters.Client
import StateFlow.Construction.Adapters.Collection
import StateFlow.Construction.Adapters.Dcgm
import StateFlow.Construction.Adapters.Exposition
import StateFlow.Construction.Adapters.Gateway
import StateFlow.Construction.Adapters.Identity
import StateFlow.Construction.Adapters.KV
import StateFlow.Construction.Adapters.Kubernetes
import StateFlow.Construction.Adapters.KubernetesWatch
import StateFlow.Construction.Adapters.Prometheus
import StateFlow.Construction.Adapters.Publication
import StateFlow.Construction.Adapters.Runner
import StateFlow.Construction.Adapters.Runtime
import StateFlow.Construction.Adapters.SharedPlane
import StateFlow.Construction.Adapters.Writer
import StateFlow.Construction.Control.Evaluation
import StateFlow.Construction.Control.Journal
import StateFlow.Construction.Control.KV
import StateFlow.Construction.Control.Replay
import StateFlow.Construction.Gateway.Backend
import StateFlow.Construction.Gateway.Normalizer
import StateFlow.Construction.Gateway.Server
import StateFlow.Construction.Gateway.Service
import StateFlow.Construction.Harness.GenericProxy
import StateFlow.Construction.Harness.Reporter
import StateFlow.Construction.Plane.Api
import StateFlow.Construction.Plane.Contracts
import StateFlow.Construction.Plane.Endpoints
import StateFlow.Construction.Plane.Graph
import StateFlow.Construction.Plane.Metrics
import StateFlow.Construction.Plane.Notify
import StateFlow.Construction.Plane.Pages
import StateFlow.Construction.Plane.Plane
import StateFlow.Construction.Plane.Reads
import StateFlow.Construction.Plane.Registry
import StateFlow.Construction.Plane.Retention
import StateFlow.Construction.Plane.Run
import StateFlow.Construction.Plane.Snapshot
import StateFlow.Construction.Plane.Trace
import StateFlow.Construction.Plane.Wire
import StateFlow.Construction.Prediction.Contracts
import StateFlow.Construction.Prediction.Model
import StateFlow.Construction.Prediction.Replay
import StateFlow.Construction.Prediction.Service
import StateFlow.Construction.Rpc.Service
import StateFlow.Construction.Rpc.Watch
import StateFlow.Construction.Scheduler.ContractBridge
import StateFlow.Construction.Scheduler.Cost
import StateFlow.Construction.Scheduler.Filter
import StateFlow.Construction.Scheduler.Gates
import StateFlow.Construction.Scheduler.Loop
import StateFlow.Construction.Scheduler.Predictor
import StateFlow.Construction.Scheduler.Pricing
import StateFlow.Construction.Scheduler.Schedule
import StateFlow.Construction.Scheduler.Types
import StateFlow.Construction.State.Calls
import StateFlow.Construction.State.Event
import StateFlow.Construction.State.Routing
import StateFlow.Construction.State.Schema
import StateFlow.Construction.State.Store
import StateFlow.Construction.State.View
import StateFlow.Proof.Adapters.Bridge
import StateFlow.Proof.Adapters.Client
import StateFlow.Proof.Adapters.Cluster
import StateFlow.Proof.Adapters.Collection
import StateFlow.Proof.Adapters.Decoding
import StateFlow.Proof.Adapters.Deployments
import StateFlow.Proof.Adapters.Exposition
import StateFlow.Proof.Adapters.Identity
import StateFlow.Proof.Adapters.Labels
import StateFlow.Proof.Adapters.Lifecycles
import StateFlow.Proof.Adapters.Ownership
import StateFlow.Proof.Adapters.Polls
import StateFlow.Proof.Adapters.Publish
import StateFlow.Proof.Adapters.Quantile
import StateFlow.Proof.Adapters.Quantities
import StateFlow.Proof.Adapters.Registration
import StateFlow.Proof.Adapters.Relist
import StateFlow.Proof.Adapters.Remote
import StateFlow.Proof.Adapters.Runner
import StateFlow.Proof.Control.Calibration
import StateFlow.Proof.Control.Journal
import StateFlow.Proof.Control.JournalOutcomes
import StateFlow.Proof.Control.JournalRecords
import StateFlow.Proof.Control.Optimality
import StateFlow.Proof.Control.PlanSafety
import StateFlow.Proof.Control.Prefetch
import StateFlow.Proof.Control.PrefetchGuard
import StateFlow.Proof.Control.Replay
import StateFlow.Proof.Control.Rollback
import StateFlow.Proof.Control.RoutedBaseline
import StateFlow.Proof.Control.RoutingReplay
import StateFlow.Proof.Gateway.Constraints
import StateFlow.Proof.Gateway.Dispatch
import StateFlow.Proof.Gateway.Isolation
import StateFlow.Proof.Gateway.Prompts
import StateFlow.Proof.Gateway.Server
import StateFlow.Proof.Gateway.TypedRuns
import StateFlow.Proof.Harness.GenericProxy
import StateFlow.Proof.Harness.Reporter
import StateFlow.Proof.Plane.Authority
import StateFlow.Proof.Plane.Changes
import StateFlow.Proof.Plane.Confluence
import StateFlow.Proof.Plane.Consistency
import StateFlow.Proof.Plane.Demands
import StateFlow.Proof.Plane.Distances
import StateFlow.Proof.Plane.Endpoints
import StateFlow.Proof.Plane.Entities
import StateFlow.Proof.Plane.Events
import StateFlow.Proof.Plane.Freshness
import StateFlow.Proof.Plane.Graph
import StateFlow.Proof.Plane.Idempotency
import StateFlow.Proof.Plane.Metrics
import StateFlow.Proof.Plane.Notify
import StateFlow.Proof.Plane.OptimisticCas
import StateFlow.Proof.Plane.Pages
import StateFlow.Proof.Plane.Reads
import StateFlow.Proof.Plane.Requests
import StateFlow.Proof.Plane.Retention
import StateFlow.Proof.Plane.Snapshots
import StateFlow.Proof.Plane.Trace
import StateFlow.Proof.Plane.Wire
import StateFlow.Proof.Plane.Writes
import StateFlow.Proof.Prediction.Pressure
import StateFlow.Proof.Prediction.Ranges
import StateFlow.Proof.Prediction.Replay
import StateFlow.Proof.Rpc.Traffic
import StateFlow.Proof.Rpc.Transport
import StateFlow.Proof.Rpc.Watch
import StateFlow.Proof.Scheduler.BudgetFilter
import StateFlow.Proof.Scheduler.Hysteresis
import StateFlow.Proof.Scheduler.KvCost
import StateFlow.Proof.Scheduler.Pipeline
import StateFlow.Proof.Scheduler.Policy
import StateFlow.Proof.Scheduler.ReplicaOrder
import StateFlow.Proof.Scheduler.RoutingLog
import StateFlow.Proof.Scheduler.SafeMode
import StateFlow.Proof.Scheduler.Selection
import StateFlow.Proof.Scheduler.Stages
import StateFlow.Proof.Scheduler.Streak
import StateFlow.Proof.Scheduler.SuccessGate
import StateFlow.Proof.Scheduler.Versions
import StateFlow.Proof.State.Completeness
import StateFlow.Proof.State.Completion
import StateFlow.Proof.State.Constraints
import StateFlow.Proof.State.Event
import StateFlow.Proof.State.EventReplay
import StateFlow.Proof.State.Handlers
import StateFlow.Proof.State.Isolation
import StateFlow.Proof.State.Orders
import StateFlow.Proof.State.Preservation
import StateFlow.Proof.State.Progress
import StateFlow.Proof.State.Raises
import StateFlow.Proof.State.SharedCounter
import StateFlow.Proof.State.Tokens
import StateFlow.Proof.State.Tools
import StateFlow.Proof.State.Typing
import StateFlow.Proof.State.Updates
