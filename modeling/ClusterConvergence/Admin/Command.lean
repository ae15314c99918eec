import ClusterConvergence.ReplicaSet.Config
import ClusterConvergence.Text.Dict

/-!
# Administrative commands

Everything that a run asks of a cluster.
-/

namespace ClusterConvergence

/-- An administrative command. -/
inductive AdminCommand where
  /-- Ask a member whether it is the primary, and for the primary it knows of. -/
  | hello
  | initiate (config : ReplicaConfig)
  /-- Ask for the live configuration of a replica set. -/
  | getConfig (name : String)
  | reconfig (config : ReplicaConfig)
  | addShard (shard : String)
  | enableSharding (database : String)
  | shardCollection (ns : String) (key : Dict Int32)
  deriving DecidableEq

namespace AdminCommand

/-- The name under which a command is sent. -/
def name : AdminCommand → String
  | .hello => "hello"
  | .initiate _ => "replSetInitiate"
  | .getConfig _ => "replSetGetConfig"
  | .reconfig _ => "replSetReconfig"
  | .addShard _ => "addShard"
  | .enableSharding _ => "enablesharding"
  | .shardCollection _ _ => "shardcollection"

/-- Whether a command changes the cluster. -/
def isMutation : AdminCommand → Bool
  | .hello => false
  | .getConfig _ => false
  | _ => true

end AdminCommand

end ClusterConvergence
