import ClusterConvergence.Cluster.Basic
import ClusterConvergence.Number.Padded
import ClusterConvergence.Sharding.Collection

/-!
# Answering commands

How the cluster answers a command and what the command changes.  A command that is refused changes
nothing, and a change that was made before is refused with a reason that says so.
-/

namespace ClusterConvergence

/-- What is wrong with a configuration on its own: it has to have members, and no two of them with
the same id or the same host. -/
def ReplicaConfig.defect? (config : ReplicaConfig) : Option String :=
  if config.members.isEmpty then some "replica set configuration has no members"
  else if config.ids.Nodup ∧ config.hosts.Nodup then none
  else some "member ids and hosts must be unique"

namespace Cluster

/-- The name that a newly registered shard goes by: that of its replica set, or a number. -/
def shardName (cluster : Cluster) (shard : String) : String :=
  let cs := shard.toList
  if cs.contains '/' then String.ofList (cs.takeWhile (· != '/'))
  else "shard" ++ padded 4 cluster.shards.length

/-- Tell whether an address is the primary, and which one is. -/
def hello (cluster : Cluster) (address : String) : Reply :=
  { Reply.success with
    isWritablePrimary := some (cluster.primary.all (· == address))
    primary := cluster.primary }

/-- Initiate the replica set. -/
def initiate (cluster : Cluster) (config : ReplicaConfig) : Reply × Cluster :=
  if cluster.replicaSet.isSome then (.failure Reply.alreadyInitialized (some 23), cluster)
  else
    match config.defect? with
    | some reason => (.failure reason (some 93), cluster)
    | none => (.success, cluster.setReplicaSet config)

/-- Tell the live configuration of a replica set. -/
def getConfig (cluster : Cluster) (name : String) : Reply :=
  match cluster.replicaSet with
  | none => .failure "no replset config has been received" (some 94)
  | some live =>
    if live.id = name then { Reply.success with config := some live }
    else
      .failure ("replica set name '" ++ name ++ "' does not match '" ++ live.id ++ "'") (some 93)

/-- Replace the live configuration by one of a higher version. -/
def reconfig (cluster : Cluster) (config : ReplicaConfig) : Reply × Cluster :=
  match cluster.replicaSet with
  | none => (.failure "not yet initialized" (some 94), cluster)
  | some live =>
    if config.id ≠ live.id then (.failure "replica set name cannot change" (some 103), cluster)
    else if config.version ≤ live.version then
      (.failure ("version " ++ toString config.version.toNat ++
        " must be greater than current version " ++ toString live.version.toNat) (some 103),
        cluster)
    else
      match config.defect? with
      | some reason => (.failure reason (some 93), cluster)
      | none => (.success, cluster.setReplicaSet config)

/-- Register a shard. -/
def addShard (cluster : Cluster) (shard : String) : Reply × Cluster :=
  if cluster.shards.contains shard then
    (.failure ("shard '" ++ shard ++ "' " ++ Reply.alreadyExists), cluster)
  else
    ({ Reply.success with shardAdded := some (cluster.shardName shard) },
      { cluster with shards := cluster.shards ++ [shard] })

/-- Enable sharding for a database. -/
def enableSharding (cluster : Cluster) (database : String) : Reply × Cluster :=
  if cluster.databases.contains database then (.failure Reply.alreadyEnabled, cluster)
  else (.success, { cluster with databases := cluster.databases.add database })

/-- Shard a collection of an enabled database. -/
def shardCollection (cluster : Cluster) (ns : String) (key : Dict Int32) : Reply × Cluster :=
  let database := (splitNamespace ns).1
  if !cluster.databases.contains database then
    (.failure ("sharding not enabled for db " ++ database), cluster)
  else if cluster.collections.contains ns then (.failure Reply.alreadySharded, cluster)
  else
    ({ Reply.success with collectionSharded := some ns },
      { cluster with collections := cluster.collections.insert ns key })

/-- Answer a command at an address. -/
def apply (cluster : Cluster) (address : String) : AdminCommand → Reply × Cluster
  | .hello => (cluster.hello address, cluster)
  | .initiate config => cluster.initiate config
  | .getConfig name => (cluster.getConfig name, cluster)
  | .reconfig config => cluster.reconfig config
  | .addShard shard => cluster.addShard shard
  | .enableSharding database => cluster.enableSharding database
  | .shardCollection ns key => cluster.shardCollection ns key

end Cluster

end ClusterConvergence
