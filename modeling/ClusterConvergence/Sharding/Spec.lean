import ClusterConvergence.Node.Basic
import ClusterConvergence.Text.Dict

/-!
# Shard specs

A shard is a node on its own or a replica set.  The routing layer is given its spec: the address of
the node, or the name of the replica set, a slash and the addresses of its members.  Specs are
computed from the discovered nodes on every run.
-/

namespace ClusterConvergence

/-- The spec of a shard. -/
inductive ShardSpec where
  | standalone (host : String)
  | replicaSet (name : String) (hosts : List String)
  deriving DecidableEq, Repr

namespace ShardSpec

/-- The text that the routing layer is given. -/
def text : ShardSpec → String
  | .standalone host => host
  | .replicaSet name hosts => name ++ "/" ++ ",".intercalate hosts

/-- Whether the routing layer takes the text for a replica set; the slash is what it looks at. -/
def isReplicaSet (spec : ShardSpec) : Bool :=
  spec.text.toList.contains '/'

/-- Add a host to a list unless it is in it. -/
def addHost (hosts : List String) (host : String) : List String :=
  if hosts.contains host then hosts else hosts ++ [host]

/-- The hosts of each replica set, and those of the nodes that are in none. -/
structure Groups where
  replicaSets : Dict (List String) := Dict.empty
  standalone : List String := []

/-- Put a node into its group. -/
def Groups.add (groups : Groups) (node : Node) : Groups :=
  match node.replicaSet? with
  | some name =>
    let hosts := (groups.replicaSets.get? name).getD []
    { groups with replicaSets := groups.replicaSets.insert name (addHost hosts node.host) }
  | none => { groups with standalone := addHost groups.standalone node.host }

/-- The groups of the given nodes, hosts in the order of the nodes. -/
def groupsOf (nodes : List Node) : Groups :=
  nodes.foldl Groups.add {}

/-- The specs of the shards that nodes make up: the replica sets in the order of their names, then
the nodes that are on their own. -/
def ofNodes (nodes : List Node) : List ShardSpec :=
  let groups := groupsOf (Node.sorted nodes)
  groups.replicaSets.entries.map (fun e => .replicaSet e.1 e.2) ++
    groups.standalone.map .standalone

end ShardSpec

end ClusterConvergence
