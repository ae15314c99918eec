import ClusterConvergence.Node.Role
import ClusterConvergence.Text.Blank

/-!
# Nodes

A node as it is discovered, and what follows from its description: the two addresses under which it
may be known, and the replica set to which it belongs.
-/

namespace ClusterConvergence

/-- The port of a daemon that does not name one. -/
def defaultPort : UInt16 := 27017

/-- The shard of a node that does not name one. -/
def defaultShard : String := "default"

/-- The replica set that holds the data of a shard. -/
def replicaSetOfShard (shard : String) : String :=
  "rs_" ++ shard

/-- A host and a port as one address. -/
def addressOf (host : String) (port : UInt16) : String :=
  host ++ ":" ++ toString port.toNat

/-- A discovered node. -/
structure Node where
  /-- The name by which nodes are ordered. -/
  name : String
  fqdn : String
  ipAddress : String
  port : UInt16 := defaultPort
  /-- Whether the node was marked as a member of a replica set. -/
  inReplicaSet : Bool := false
  /-- The replica set that was named for the node. -/
  replicaSetName : Option String := none
  environment : String := ""
  clusterName : Option String := none
  shardName : Option String := none
  roles : List Role := []
  deriving DecidableEq, Repr

namespace Node

/-- The address of the node by its host name. -/
def host (node : Node) : String :=
  addressOf node.fqdn node.port

/-- The address of the node by its number. -/
def ipHost (node : Node) : String :=
  addressOf node.ipAddress node.port

/-- Whether the node plays a role. -/
def hasRole (node : Node) (role : Role) : Bool :=
  node.roles.contains role

/-- The shard that the node belongs to. -/
def shard (node : Node) : String :=
  node.shardName.getD defaultShard

/-- The replica set that the node belongs to, if it is a member of one: the one that was named for
it, unless that name is blank, or else the one of its shard. -/
def replicaSet? (node : Node) : Option String :=
  if node.inReplicaSet || node.hasRole .replicaset then
    match node.replicaSetName with
    | some name => some (if isBlankText name then replicaSetOfShard node.shard else name)
    | none => some (replicaSetOfShard node.shard)
  else none

/-! ## Order -/

/-- Whether a node may stand before another one: names decide, then host names. -/
def le (a b : Node) : Bool :=
  decide (a.name < b.name) || (a.name == b.name && decide (a.fqdn ≤ b.fqdn))

/-- Nodes in the order of their names; nodes with the same two names keep their order. -/
def sorted (nodes : List Node) : List Node :=
  nodes.mergeSort le

end Node

end ClusterConvergence
