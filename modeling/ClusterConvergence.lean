import ClusterConvergence.Admin.Command
import ClusterConvergence.Admin.Document
import ClusterConvergence.Admin.Failure
import ClusterConvergence.Admin.Reply
import ClusterConvergence.Admin.Target
import ClusterConvergence.Cli.Args
import ClusterConvergence.Cli.Command
import ClusterConvergence.Cli.Config
import ClusterConvergence.Cli.Error
import ClusterConvergence.Cli.Files
import ClusterConvergence.Cluster.Answer
import ClusterConvergence.Cluster.Basic
import ClusterConvergence.Cluster.Session
import ClusterConvergence.Cluster.Site
import ClusterConvergence.Error
import ClusterConvergence.Journal.Basic
import ClusterConvergence.Journal.Event
import ClusterConvergence.Journal.Line
import ClusterConvergence.Journal.Severity
import ClusterConvergence.Journal.Stamp
import ClusterConvergence.Json.Decode
import ClusterConvergence.Json.Doc
import ClusterConvergence.Json.Quoted
import ClusterConvergence.Json.Value
import ClusterConvergence.Main
import ClusterConvergence.Node.Basic
import ClusterConvergence.Node.Daemon
import ClusterConvergence.Node.Document
import ClusterConvergence.Node.Inventory
import ClusterConvergence.Node.Query
import ClusterConvergence.Node.Role
import ClusterConvergence.Number.Padded
import ClusterConvergence.Number.Scaled
import ClusterConvergence.Number.Shortest
import ClusterConvergence.Proofs.Activity
import ClusterConvergence.Proofs.Admin.Wire
import ClusterConvergence.Proofs.Cluster.Command
import ClusterConvergence.Proofs.Cluster.Effect
import ClusterConvergence.Proofs.Cluster.History
import ClusterConvergence.Proofs.Cluster.Integrity
import ClusterConvergence.Proofs.Cluster.Landing
import ClusterConvergence.Proofs.Cluster.Probe
import ClusterConvergence.Proofs.Cluster.Queue
import ClusterConvergence.Proofs.Journal.Discretion
import ClusterConvergence.Proofs.Journal.Line
import ClusterConvergence.Proofs.Journal.Marks
import ClusterConvergence.Proofs.Json.Decode
import ClusterConvergence.Proofs.Json.Number
import ClusterConvergence.Proofs.Json.Quoted
import ClusterConvergence.Proofs.Json.Rewriting
import ClusterConvergence.Proofs.Json.Text
import ClusterConvergence.Proofs.Node.Inventory
import ClusterConvergence.Proofs.Node.Mending
import ClusterConvergence.Proofs.Node.Naming
import ClusterConvergence.Proofs.Node.Rearrangement
import ClusterConvergence.Proofs.Node.UnknownRole
import ClusterConvergence.Proofs.ReplicaSet.Comparison
import ClusterConvergence.Proofs.ReplicaSet.Exchange
import ClusterConvergence.Proofs.ReplicaSet.Idempotence
import ClusterConvergence.Proofs.ReplicaSet.Identity
import ClusterConvergence.Proofs.ReplicaSet.Members
import ClusterConvergence.Proofs.ReplicaSet.Migration
import ClusterConvergence.Proofs.ReplicaSet.ReadBack
import ClusterConvergence.Proofs.ReplicaSet.Soundness
import ClusterConvergence.Proofs.ReplicaSet.Standstill
import ClusterConvergence.Proofs.ReplicaSet.Step
import ClusterConvergence.Proofs.ReplicaSet.Successor
import ClusterConvergence.Proofs.ReplicaSet.Transcript
import ClusterConvergence.Proofs.ReplicaSet.Untouched
import ClusterConvergence.Proofs.Run.Acceptance
import ClusterConvergence.Proofs.Run.Agreement
import ClusterConvergence.Proofs.Run.Brackets
import ClusterConvergence.Proofs.Run.Checks
import ClusterConvergence.Proofs.Run.Forecast
import ClusterConvergence.Proofs.Run.Membership
import ClusterConvergence.Proofs.Run.Passage
import ClusterConvergence.Proofs.Run.Phase
import ClusterConvergence.Proofs.Sessions
import ClusterConvergence.Proofs.Sharding.Collection
import ClusterConvergence.Proofs.Sharding.Discipline
import ClusterConvergence.Proofs.Sharding.Distribution
import ClusterConvergence.Proofs.Sharding.Namespace
import ClusterConvergence.Proofs.Sharding.Partition
import ClusterConvergence.Proofs.Sharding.Registration
import ClusterConvergence.Proofs.Text.Dict
import ClusterConvergence.ReplicaSet.Change
import ClusterConvergence.ReplicaSet.Config
import ClusterConvergence.ReplicaSet.Convergence
import ClusterConvergence.ReplicaSet.Desired
import ClusterConvergence.ReplicaSet.Document
import ClusterConvergence.ReplicaSet.Outcome
import ClusterConvergence.Run.Basic
import ClusterConvergence.Run.Discovery
import ClusterConvergence.Run.Document
import ClusterConvergence.Run.Plan
import ClusterConvergence.Run.Settings
import ClusterConvergence.Sharding.Collection
import ClusterConvergence.Sharding.Convergence
import ClusterConvergence.Sharding.Item
import ClusterConvergence.Sharding.Routing
import ClusterConvergence.Sharding.Spec
import ClusterConvergence.Text.Blank
import ClusterConvergence.Text.Dict
import ClusterConvergence.Text.Occurrence
