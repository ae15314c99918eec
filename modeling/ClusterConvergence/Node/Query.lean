import ClusterConvergence.Node.Basic

/-!
# Queries

Questions for nodes by cluster, role, environment and shard.
-/

namespace ClusterConvergence

/-- A question for nodes; what is not given matches every node. -/
structure Query where
  clusterName : Option String := none
  role : Option Role := none
  environment : Option String := none
  shard : Option String := none
  deriving DecidableEq, Repr

namespace Query

/-- The nodes of one environment; all of them if it has no name. -/
def inEnvironment (query : Query) (environment : String) : Query :=
  if environment = "" then query else { query with environment := some environment }

/-- Whether a node is asked for. -/
def accepts (query : Query) (node : Node) : Bool :=
  query.clusterName.all (fun name => node.clusterName == some name) &&
    query.role.all node.hasRole &&
    query.environment.all (node.environment == ·) &&
    query.shard.all (node.shard == ·)

end Query

end ClusterConvergence
