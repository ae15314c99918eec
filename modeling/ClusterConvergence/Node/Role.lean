import ClusterConvergence.Error

/-!
# Roles

What a node does in its cluster.  Candidates for a replica set, shards and config servers are found
by their roles.
-/

namespace ClusterConvergence

/-- A role that a node plays. -/
inductive Role where
  /-- A plain daemon that holds data. -/
  | mongod
  /-- A member of a replica set. -/
  | replicaset
  /-- A daemon that holds the data of a shard. -/
  | shard
  | configserver
  /-- The routing layer. -/
  | mongos
  deriving DecidableEq, Repr

namespace Role

/-- The name in an inventory. -/
def name : Role → String
  | .mongod => "mongod"
  | .replicaset => "replicaset"
  | .shard => "shard"
  | .configserver => "configserver"
  | .mongos => "mongos"

/-- The role of a name, letter for letter. -/
def parse : String → Except RunError Role
  | "mongod" => .ok .mongod
  | "replicaset" => .ok .replicaset
  | "shard" => .ok .shard
  | "configserver" => .ok .configserver
  | "mongos" => .ok .mongos
  | text => .error (.unknownKind text)

@[simp] theorem parse_name (role : Role) : parse role.name = .ok role := by
  cases role <;> rfl

end Role

end ClusterConvergence
