import ClusterConvergence.Node.Daemon
import ClusterConvergence.Node.Query
import ClusterConvergence.Text.Dict

/-!
# Settings of a run

What a run has to know about the node it works for, and the three queries that follow from it.
-/

namespace ClusterConvergence

/-- What a run has to know. -/
structure Settings where
  nodeName : String
  clusterName : Option String := none
  environment : String := ""
  daemon : Daemon
  /-- The port of the local daemon. -/
  port : UInt16 := defaultPort
  /-- The replica set to converge; without it there is none. -/
  replicaSet : Option String := none
  shard : String := defaultShard
  /-- Whether a replica set without candidates stops the run. -/
  solo : Bool := false
  /-- From the namespaces of the collections to be sharded to their keys. -/
  collections : Dict String := Dict.empty
  deriving DecidableEq

namespace Settings

/-- The nodes with a role in the cluster and the environment of this node. -/
def query (settings : Settings) (role : Role) : Query :=
  { clusterName := settings.clusterName, role := some role : Query }.inEnvironment
    settings.environment

/-- The candidates for the replica set: its members in the same shard, whatever else they are. -/
def replicaSetQuery (settings : Settings) : Query :=
  { settings.query .replicaset with shard := some settings.shard }

/-- The nodes that hold shards. -/
def shardQuery (settings : Settings) : Query :=
  settings.query .shard

/-- The config servers. -/
def configServerQuery (settings : Settings) : Query :=
  settings.query .configserver

end Settings

end ClusterConvergence
