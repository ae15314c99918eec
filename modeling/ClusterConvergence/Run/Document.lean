import ClusterConvergence.ReplicaSet.Document
import ClusterConvergence.Run.Basic
import ClusterConvergence.Run.Plan

/-!
# Outcomes, reports and plans as documents

What a run came to, and what it would do, as the command line shows it.
-/

namespace ClusterConvergence

/-- What was done to a replica set. -/
def ReplicaSetAction.toJson : ReplicaSetAction → Json
  | .initiated => .object [("kind", .string "initiated")]
  | .unchanged => .object [("kind", .string "unchanged")]
  | .hostnameMigration => .object [("kind", .string "hostname_migration")]
  | .memberDiff diff =>
    .object [("kind", .string "member_diff"), ("removed", .strings diff.removed),
      ("added", .strings diff.added)]

/-- What converging a replica set came to. -/
def ReplicaSetOutcome.toJson (outcome : ReplicaSetOutcome) : Json :=
  .object (("status", .string outcome.status) ::
    match outcome with
    | .configCurrent version action =>
      [("version", .nat version.toNat), ("action", action.toJson)]
    | .pendingConvergence reason => [("reason", .string reason)]
    | .connectionFailed target reason =>
      [("target", .string target), ("reason", .string reason)]
    | .noMembersFound => []
    | .failed reason => [("reason", .string reason)])

/-- The member that names an item. -/
def Item.toMember : Item → String × Json
  | .shard spec => ("spec", .string spec)
  | .database name =>
    ("target", .object [("kind", .string "database"), ("name", .string name)])
  | .collection c =>
    ("target", .object [("kind", .string "collection"), ("name", .string c.ns)])

/-- What became of an item. -/
def ItemOutcome.toJson (outcome : ItemOutcome) : Json :=
  .object ([outcome.item.toMember, ("status", .string outcome.status.name)] ++
    Json.member? "detail" (outcome.detail.map .string))

/-- What converging the replica set of a run came to. -/
def ReplicaSetReport.toJson (report : ReplicaSetReport) : Json :=
  .object [("name", .string report.name), ("outcome", report.outcome.toJson)]

/-- What a run came to. -/
def Report.toJson (report : Report) : Json :=
  .object ([("run_id", .string report.runId), ("node_name", .string report.nodeName),
      ("instance_type", .string report.daemon.name)] ++
    Json.member? "replica_set" (report.replicaSet.map ReplicaSetReport.toJson) ++
    [("shards", .array (report.shards.map ItemOutcome.toJson)),
      ("sharding", .array (report.sharding.map ItemOutcome.toJson)),
      ("failed", .bool report.hasFailures)])

/-- A collection that shall be sharded. -/
def ShardedCollection.toJson (c : ShardedCollection) : Json :=
  .object [("namespace", .string c.ns), ("shard_key", .string c.key)]

/-- The members with which a replica set would be initiated. -/
def PlannedReplicaSet.toJson (planned : PlannedReplicaSet) : Json :=
  .object [("name", .string planned.name), ("members", .array (planned.members.map Member.toJson))]

/-- What a run would submit. -/
def Plan.toJson (plan : Plan) : Json :=
  .object ([("node_name", .string plan.nodeName), ("instance_type", .string plan.daemon.name)] ++
    Json.member? "replica_set" (plan.replicaSet.map PlannedReplicaSet.toJson) ++
    Json.member? "config_servers" (plan.configServers.map .nat) ++
    [("shards", .strings plan.shards), ("databases", .strings plan.databases),
      ("collections", .array (plan.collections.map ShardedCollection.toJson))])

end ClusterConvergence
