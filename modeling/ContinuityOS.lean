import ContinuityOS.Closure.Order
import ContinuityOS.Compiler.Stability
import ContinuityOS.Fusion.Interference
import ContinuityOS.Fusion.Missing
import ContinuityOS.Graph.Invariants
import ContinuityOS.Library.Components
import ContinuityOS.Library.UnionFind
import ContinuityOS.Policy.Completeness
import ContinuityOS.Independence.Upstream
import ContinuityOS.Independence.Analyzer
import ContinuityOS.Independence.Sharing
import ContinuityOS.Independence.Clustering
import ContinuityOS.Independence.Redundancy
import ContinuityOS.Graph.Effective
import ContinuityOS.Graph.RunLog
import ContinuityOS.Graph.Deliveries
import ContinuityOS.Graph.Agreement
import ContinuityOS.Graph.BlastRadius
import ContinuityOS.Graph.SinglePoints
import ContinuityOS.Graph.AlternativePaths
import ContinuityOS.Graph.Cycles
import ContinuityOS.Graph.Presentation
import ContinuityOS.Graph.Monotone
import ContinuityOS.Graph.NoisyOrMeaning
import ContinuityOS.Graph.SingleContribution
import ContinuityOS.Library.Encoding
import ContinuityOS.Library.Sha256
import ContinuityOS.Library.Text
import ContinuityOS.Evidence.Ledger
import ContinuityOS.Evidence.Lines
import ContinuityOS.Evidence.Verification
import ContinuityOS.Evidence.Append
import ContinuityOS.Evidence.RoundTrip
import ContinuityOS.Evidence.Signatures
import ContinuityOS.Evidence.Tamper
import ContinuityOS.Evidence.TailRead
import ContinuityOS.Evidence.Concurrent
import ContinuityOS.Reconcile.Completeness
import ContinuityOS.Assurance.Completeness
import ContinuityOS.Assurance.Decoding
import ContinuityOS.Assurance.Agreement
import ContinuityOS.Library.HighWater
import ContinuityOS.Service.State
import ContinuityOS.Service.Replay
import ContinuityOS.Service.Idempotency
import ContinuityOS.Service.ReserveProof
import ContinuityOS.Service.Snapshots
import ContinuityOS.Service.Handler
import ContinuityOS.Service.StrategicAlerts
import ContinuityOS.Service.AlertConsistency
import ContinuityOS.Service.AlertRuns
import ContinuityOS.Library.Hmac
import ContinuityOS.Service.Telemetry
import ContinuityOS.Service.TelemetryRules
import ContinuityOS.Service.Authentication
import ContinuityOS.Service.Acceptance
import ContinuityOS.Service.Retry
import ContinuityOS.Library.Noninterference
import ContinuityOS.Service.Tenancy
import ContinuityOS.Sovereign.AccessControl
import ContinuityOS.Library.Masking
import ContinuityOS.Crypto.MerkleTree
import ContinuityOS.Crypto.MerkleProofs
import ContinuityOS.Crypto.ReserveCommitment
import ContinuityOS.Sovereign.CrossDomain
import ContinuityOS.Security.RateLimiter
import ContinuityOS.Service.Exchange
import ContinuityOS.Library.DateTime
import ContinuityOS.Sources.SnapshotCache
import ContinuityOS.Sources.EdgeSync
import ContinuityOS.Storage.Backends
import ContinuityOS.Embedded.CompactCodec
import ContinuityOS.Streaming.EventBus
import ContinuityOS.Library.KeySearch
import ContinuityOS.Sovereign.SmartCard
import ContinuityOS.Cluster.StateLog
import ContinuityOS.Procurement.Package
import ContinuityOS.Federation.Diode
import ContinuityOS.Compiler.Mitigation
import ContinuityOS.Fusion.Rejection
import ContinuityOS.Crypto.MerkleCompleteness
import ContinuityOS.Fusion.SeaIce
import ContinuityOS.Recovery.Model
import ContinuityOS.Recovery.Health
import ContinuityOS.Readiness.Engine
import ContinuityOS.Readiness.Scale
import ContinuityOS.Inventory.Model
import ContinuityOS.Inventory.Replenishment
import ContinuityOS.Library.Sha3
import ContinuityOS.Crypto.SealedEnvelope
import ContinuityOS.Crypto.Unsealing
import ContinuityOS.Crypto.KeystreamReuse
import ContinuityOS.Embedded.ErrorDetection
import ContinuityOS.Library.SlidingWindow
import ContinuityOS.Security.SlidingWindow
import ContinuityOS.Intelligence.Forecast
import ContinuityOS.Intelligence.Evidence
import ContinuityOS.Analysis.LinearSolver
import ContinuityOS.Intelligence.Fixpoint
import ContinuityOS.Analysis.Holdout
import ContinuityOS.Strategic.Alerts
import ContinuityOS.Intelligence.Attribution
import ContinuityOS.Intelligence.Shapes
import ContinuityOS.Sources.LatestSnapshot
import ContinuityOS.Substitution.Model
import ContinuityOS.Connectors.Edi
import ContinuityOS.Substitution.Verdict
import ContinuityOS.Connectors.BillOfLading
import ContinuityOS.Connectors.OceanLegs
import ContinuityOS.Evidence.Conflicts
import ContinuityOS.Service.EvidenceConflicts
import ContinuityOS.Database.Acknowledgement
import ContinuityOS.Service.InclusionProof
import ContinuityOS.Library.EventStream
import ContinuityOS.Streaming.EventFrames
import ContinuityOS.Database.StoredPayloads
import ContinuityOS.Storage.LastStored
import ContinuityOS.Service.StateText
import ContinuityOS.Evidence.Export
import ContinuityOS.Streaming.Displays
import ContinuityOS.Sources.GossipNetwork
import ContinuityOS.Sources.Ingest
import ContinuityOS.Cluster.Peers
import ContinuityOS.Graph.CertainSpread
import ContinuityOS.Independence.Report
import ContinuityOS.Reconcile.Remediation
import ContinuityOS.Scenarios.Simulation
import ContinuityOS.Scenarios.Shipments
import ContinuityOS.Security.Gate
import ContinuityOS.Wargame.Simulation
import ContinuityOS.Tactical.Engines
import ContinuityOS.Tactical.Worsening
import ContinuityOS.Tactical.Bridge
