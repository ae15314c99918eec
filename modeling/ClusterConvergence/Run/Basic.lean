import ClusterConvergence.Run.Discovery
import ClusterConvergence.ReplicaSet.Convergence
import ClusterConvergence.Sharding.Convergence

/-!
# Runs

A run converges the replica set, registers the shards and shards the collections, strictly in this
order and each as a phase of the journal.  An error stops it before the next change; everything else
becomes an outcome and goes into the report.
-/

namespace ClusterConvergence

/-- What converging the replica set came to. -/
structure ReplicaSetReport where
  name : String
  outcome : ReplicaSetOutcome
  deriving DecidableEq, Repr

/-- What a run came to. -/
structure Report where
  runId : String
  nodeName : String
  daemon : Daemon
  replicaSet : Option ReplicaSetReport := none
  shards : List ItemOutcome := []
  sharding : List ItemOutcome := []
  deriving DecidableEq, Repr

namespace Report

/-- Whether anything failed. -/
def hasFailures (report : Report) : Bool :=
  report.replicaSet.any (·.outcome.isFailed) || report.shards.any (·.isFailed) ||
    report.sharding.any (·.isFailed)

end Report

namespace Run

open Activity

/-- A part of a run. -/
abbrev Part (α : Type) : Type := ExceptT Abort Activity α

/-- Go on, or stop for a cause. -/
def orStop {α : Type} : Except RunError α → Part α
  | .ok a => return a
  | .error cause => throw (.error cause)

/-- A phase: `close` says how it ends when there is a result; otherwise it is left behind. -/
def inPhase {α : Type} (name : String) (close : α → Phase → Journal → Journal) (body : Part α) :
    Part α :=
  ExceptT.mk do
    let phase ← onJournal (Phase.begin name)
    let result ← body.run
    onJournal fun journal =>
      match result with
      | .ok a => ((), close a phase journal)
      | .error _ => ((), phase.abandon journal)
    return result

/-- How the phase of the replica set ends. -/
def closeReplicaSet (outcome : ReplicaSetOutcome) (phase : Phase) : Journal → Journal :=
  match outcome with
  | .failed reason => phase.fail reason
  | outcome => phase.complete [("status", outcome.status)]

/-- How a phase of items ends. -/
def closeItems (outcomes : List ItemOutcome) (phase : Phase) : Journal → Journal :=
  let failed := outcomes.countP (·.isFailed)
  if failed > 0 then
    phase.fail (toString failed ++ " of " ++ toString outcomes.length ++ " item(s) failed")
  else phase.complete [("items", toString outcomes.length)]

/-- Ask for nodes and report how many there are. -/
def discover (answers : Answers) (place : Nat) (query : Query) (what : String) :
    Part (List Node) := do
  let nodes ← orStop (answers place query)
  report .nodesDiscovered [("query", what), ("count", toString nodes.length)]
  return nodes

/-- The phase that converges the replica set. -/
def replicaSetPhase (settings : Settings) (answers : Answers) (place : Nat) (name : String) :
    Part ReplicaSetOutcome :=
  inPhase "REPLICA_SET" closeReplicaSet do
    let candidates ← discover answers place settings.replicaSetQuery "replicaset"
    convergeReplicaSet settings.port settings.solo name candidates

/-- The phase that registers the shards. -/
def shardsPhase (settings : Settings) (answers : Answers) (place : Nat) :
    Part (List ItemOutcome) :=
  inPhase "SHARDS" closeItems do
    let nodes ← discover answers place settings.shardQuery "shard"
    registerShards (.localhost settings.port) nodes

/-- The phase that shards the collections. -/
def collectionsPhase (settings : Settings) : Part (List ItemOutcome) :=
  inPhase "COLLECTIONS" closeItems do
    let result ← (shardCollections (.localhost settings.port) settings.collections).run
    orStop result

/-- The replica set of a run. -/
def convergeOwn (settings : Settings) (answers : Answers) (place : Nat) :
    Part (Option ReplicaSetReport) := do
  match settings.replicaSet with
  | none => return none
  | some name =>
    let outcome ← replicaSetPhase settings answers place name
    return some ⟨name, outcome⟩

/-- The phases of a run.  The config servers are counted before the first one. -/
def phases (runId : String) (settings : Settings) (answers : Answers) : Part Report := do
  let isRouter := settings.daemon.isRouter
  let collections ← orStop (ShardedCollection.parseAll settings.collections)
  if isRouter then
    let counted ← (onJournal (countConfigServers settings answers 0) : Activity _)
    let _ ← orStop counted
  let place := if isRouter then 1 else 0
  let replicaSet ← convergeOwn settings answers place
  let report : Report :=
    { runId := runId, nodeName := settings.nodeName, daemon := settings.daemon,
      replicaSet := replicaSet }
  if isRouter then
    let place := if settings.replicaSet.isSome then place + 1 else place
    let shards ← shardsPhase settings answers place
    let sharding ← if collections.isEmpty then pure [] else collectionsPhase settings
    return { report with shards := shards, sharding := sharding }
  else return report

/-- Mark the lines of the journal with a run from here on. -/
def mark (runId : Option String) : Activity Unit :=
  onJournal fun journal => ((), { journal with runId := runId })

/-- How a run ends on the journal.  After an overflow it does not. -/
def conclude : Except Abort Report → Activity Unit
  | .ok outcome => do
    report (if outcome.hasFailures then .runFailed else .runComplete) []
    mark none
  | .error (.error cause) => do
    report .runFailed [("error", cause.message)]
    mark none
  | .error .overflow => return ()

/-- A whole run under an id of its own, whoever answers its queries. -/
def executeWith (runId : String) (settings : Settings) (answers : Answers) :
    Activity (Except Abort Report) := do
  mark (some runId)
  report .runStart [("node", settings.nodeName), ("instance_type", settings.daemon.name)]
  let result ← (phases runId settings answers).run
  conclude result
  return result

/-- A whole run with the nodes of a discovery. -/
def execute (runId : String) (settings : Settings) (discovery : Discovery) :
    Activity (Except Abort Report) :=
  executeWith runId settings discovery.list

end Run

end ClusterConvergence
