import ClusterConvergence.Journal.Severity

/-!
# Events

What a run reports.  Every event has one name and one severity.
-/

namespace ClusterConvergence

/-- An event of a run. -/
inductive Event where
  -- the run
  | runStart
  | runComplete
  | runFailed
  | configLoaded
  | nodesDiscovered
  | configServerCountInvalid
  -- connections
  | connectionFailed
  -- the replica set
  | replicaSetNoMembers
  | replicaSetConfiguring
  | replicaSetInitiated
  | replicaSetInitiatePending
  | replicaSetFetchPending
  | replicaSetAlreadyConfigured
  | replicaSetHostnameMigration
  | replicaSetMemberDiff
  | replicaSetReconfigured
  | replicaSetReconfigPending
  | replicaSetReconfigVerified
  | replicaSetFailed
  -- shards
  | shardsGrouped
  | shardAdded
  | shardAlreadyRegistered
  | shardAddPending
  | shardAddFailed
  -- databases and collections
  | shardingEnabled
  | shardingAlreadyEnabled
  | shardingEnablePending
  | shardingEnableFailed
  | collectionSharded
  | collectionAlreadySharded
  | collectionShardPending
  | collectionShardFailed
  deriving DecidableEq, Repr

namespace Event

/-- The name on a journal line. -/
def name : Event → String
  | .runStart => "RUN_BEGIN"
  | .runComplete => "RUN_COMPLETE"
  | .runFailed => "RUN_FAILED"
  | .configLoaded => "CONFIG_LOADED"
  | .nodesDiscovered => "NODES_DISCOVERED"
  | .configServerCountInvalid => "CONFIG_SERVER_COUNT_INVALID"
  | .connectionFailed => "CONNECTION_FAILED"
  | .replicaSetNoMembers => "REPLICA_SET_NO_MEMBERS"
  | .replicaSetConfiguring => "REPLICA_SET_CONFIGURING"
  | .replicaSetInitiated => "REPLICA_SET_INITIATED"
  | .replicaSetInitiatePending => "REPLICA_SET_INITIATE_PENDING"
  | .replicaSetFetchPending => "REPLICA_SET_FETCH_PENDING"
  | .replicaSetAlreadyConfigured => "REPLICA_SET_ALREADY_CONFIGURED"
  | .replicaSetHostnameMigration => "REPLICA_SET_HOSTNAME_MIGRATION"
  | .replicaSetMemberDiff => "REPLICA_SET_MEMBER_DIFF"
  | .replicaSetReconfigured => "REPLICA_SET_RECONFIGURED"
  | .replicaSetReconfigPending => "REPLICA_SET_RECONFIG_PENDING"
  | .replicaSetReconfigVerified => "REPLICA_SET_RECONFIG_VERIFIED"
  | .replicaSetFailed => "REPLICA_SET_FAILED"
  | .shardsGrouped => "SHARDS_GROUPED"
  | .shardAdded => "SHARD_ADDED"
  | .shardAlreadyRegistered => "SHARD_ALREADY_REGISTERED"
  | .shardAddPending => "SHARD_ADD_PENDING"
  | .shardAddFailed => "SHARD_ADD_FAILED"
  | .shardingEnabled => "SHARDING_ENABLED"
  | .shardingAlreadyEnabled => "SHARDING_ALREADY_ENABLED"
  | .shardingEnablePending => "SHARDING_ENABLE_PENDING"
  | .shardingEnableFailed => "SHARDING_ENABLE_FAILED"
  | .collectionSharded => "COLLECTION_SHARDED"
  | .collectionAlreadySharded => "COLLECTION_ALREADY_SHARDED"
  | .collectionShardPending => "COLLECTION_SHARD_PENDING"
  | .collectionShardFailed => "COLLECTION_SHARD_FAILED"

/-- The severity of an event: fatal where the run cannot go on, an error where a command failed, a
warning where something is left for the next run, and information otherwise. -/
def severity : Event → Severity
  | .configServerCountInvalid => .fatal
  | .runFailed | .replicaSetFailed | .shardAddFailed | .shardingEnableFailed
  | .collectionShardFailed => .error
  | .connectionFailed | .replicaSetNoMembers | .replicaSetInitiatePending
  | .replicaSetFetchPending | .replicaSetReconfigPending | .shardAddPending
  | .shardingEnablePending | .collectionShardPending => .warn
  | _ => .info

/-- Whether the run cannot go on after the event. -/
def isFatal (e : Event) : Bool :=
  e.severity = .fatal

end Event

end ClusterConvergence
