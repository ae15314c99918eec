import ClusterConvergence.Run.Discovery
import ClusterConvergence.ReplicaSet.Desired
import ClusterConvergence.Sharding.Collection
import ClusterConvergence.Sharding.Spec

/-!
# Plans

What a run would submit, from discovery alone.  A plan is made under the same checks as a run, and it
has no access to a cluster.
-/

namespace ClusterConvergence

/-- The members with which a replica set would be initiated. -/
structure PlannedReplicaSet where
  name : String
  members : List Member
  deriving DecidableEq, Repr

/-- What a run would submit. -/
structure Plan where
  nodeName : String
  daemon : Daemon
  replicaSet : Option PlannedReplicaSet := none
  /-- The number of config servers, on the routing layer. -/
  configServers : Option Nat := none
  /-- The specs of the shards. -/
  shards : List String := []
  databases : List String := []
  collections : List ShardedCollection := []
  deriving DecidableEq, Repr

namespace Plan

/-- Making a plan, with its reports. -/
abbrev Making (α : Type) : Type := ExceptT RunError (StateM Journal) α

/-- The replica set of a plan. -/
def replicaSetOf (settings : Settings) (answers : Answers) :
    Except RunError (Option PlannedReplicaSet) :=
  match settings.replicaSet with
  | none => .ok none
  | some name => do
    let candidates ← answers 0 settings.replicaSetQuery
    return some ⟨name, (DesiredMembers.ofCandidates candidates).byHost⟩

/-- Add what concerns the routing layer; `place` queries were asked before. -/
def addRouting (settings : Settings) (answers : Answers) (place : Nat)
    (collections : List ShardedCollection) (plan : Plan) : Making Plan := do
  let count ← ExceptT.mk (countConfigServers settings answers place)
  let nodes ← liftExcept (answers (place + 1) settings.shardQuery)
  return { plan with
    configServers := some count
    shards := (ShardSpec.ofNodes nodes).map ShardSpec.text
    databases := ShardedCollection.databases collections
    collections := collections }

/-- Make a plan, whoever answers its queries. -/
def makeWith (settings : Settings) (answers : Answers) : Making Plan := do
  let collections ← liftExcept (ShardedCollection.parseAll settings.collections)
  let replicaSet ← liftExcept (replicaSetOf settings answers)
  let plan : Plan :=
    { nodeName := settings.nodeName, daemon := settings.daemon, replicaSet := replicaSet }
  if settings.daemon.isRouter then
    let place := if settings.replicaSet.isSome then 1 else 0
    plan.addRouting settings answers place collections
  else return plan

/-- Make a plan with the nodes of a discovery. -/
def make (settings : Settings) (discovery : Discovery) : Making Plan :=
  makeWith settings discovery.list

end Plan

end ClusterConvergence
