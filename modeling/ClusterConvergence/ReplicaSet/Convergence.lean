import ClusterConvergence.Cluster.Site
import ClusterConvergence.ReplicaSet.Outcome
import ClusterConvergence.ReplicaSet.Desired

/-!
# Converging a replica set

The local daemon is asked to initiate the replica set with the desired members.  If it was initiated
before, the live configuration is read and compared with the desired members.  Where it differs, its
successor is sent to the replica set, through the list of its live members.

The successor is sent at most once.  If the connection is lost meanwhile, the live configuration is
read again, and it decides.
-/

namespace ClusterConvergence

/-- How converging a replica set ends early. -/
inductive Halt where
  | settled (outcome : ReplicaSetOutcome)
  | overflow
  deriving DecidableEq, Repr

/-- A part of converging a replica set. -/
abbrev Step (α : Type) : Type := ExceptT Halt Activity α

namespace Step

open Activity

/-- End with an outcome. -/
def settle {α : Type} (outcome : ReplicaSetOutcome) : Step α :=
  throw (.settled outcome)

/-- End with a failure. -/
def fail {α : Type} (reason : String) : Step α :=
  settle (.failed reason)

/-- Go on with a number that fits its width. -/
def fitting {α : Type} : Except Overflow α → Step α
  | .ok a => return a
  | .error _ => throw .overflow

/-- Use a session and give it back, however that ends. -/
def holding {α : Type} (session : Session) (use : Step α) : Step α :=
  ExceptT.mk do
    let result ← use.run
    release session
    return result

/-- The cluster could not be reached. -/
def unreachable {α : Type} (target reason : String) : Step α := do
  report .connectionFailed [("target", target), ("reason", reason)]
  settle (.connectionFailed target reason)

/-- Open a session. -/
def openAt (target : Target) : Step Session := do
  match ← connect target with
  | .ok session => return session
  | .error failure => unreachable target.text failure.message

/-- Ask the local daemon about a replica set; `pending` reports that it did not answer in time. -/
def ask (session : Session) (command : AdminCommand) (pending : Event) (name : String) :
    Step Reply := do
  match ← send session command with
  | .ok reply => return reply
  | .error failure =>
    if failure.isTimeout then
      report pending [("replica_set", name), ("reason", failure.message)]
      settle (.pendingConvergence failure.message)
    else unreachable session.address failure.message

/-- Read the live configuration. -/
def fetch (session : Session) (name : String) : Step ReplicaConfig := do
  let reply ← ask session (.getConfig name) .replicaSetFetchPending name
  if !reply.isOk then fail ("cannot read live config: " ++ reply.reason)
  match reply.config with
  | none => fail "live config missing from reply"
  | some live =>
    if live.id = name then return live
    else
      fail ("live config is for replica set '" ++ live.id ++ "', expected '" ++ name ++ "'")

/-- Initiate the replica set; the live configuration, if it was initiated before. -/
def initiateOrFetch (session : Session) (name : String) (members : List Member) :
    Step (Option ReplicaConfig) := do
  let command := .initiate (.initial name members)
  let reply ← ask session command .replicaSetInitiatePending name
  if reply.isOk then
    report .replicaSetInitiated [("replica_set", name)]
    return none
  else if reply.reports Reply.alreadyInitialized then
    let live ← fetch session name
    return some live
  else fail ("initiate rejected: " ++ reply.reason)

/-! ## Sending the successor -/

/-- The connection was lost, and it is not known what became of the successor. -/
def unverified {α : Type} (lost : Failure) (detail : String) : Step α :=
  fail ("connection lost during reconfig (" ++ lost.message ++ "); could not verify: " ++ detail)

/-- Read the live configuration again and see whether it is the successor. -/
def readBack (session : Session) (next : ReplicaConfig) (action : ReplicaSetAction)
    (lost : Failure) : Step ReplicaSetOutcome := do
  match ← send session (.getConfig next.id) with
  | .error failure => unverified lost failure.message
  | .ok reply =>
    match reply.isOk, reply.config with
    | true, some live =>
      if live.reflects next then
        report .replicaSetReconfigVerified
          [("replica_set", live.id), ("version", toString live.version.toNat)]
        return .configCurrent live.version action
      else
        fail ("connection lost during reconfig (" ++ lost.message ++ "); live version " ++
          toString live.version.toNat ++ " does not reflect version " ++
          toString next.version.toNat)
    | _, _ => unverified lost reply.reason

/-- See what became of the successor after the connection was lost. -/
def verify (port : UInt16) (next : ReplicaConfig) (action : ReplicaSetAction) (lost : Failure) :
    Step ReplicaSetOutcome := do
  match ← connect (.localhost port) with
  | .error failure => unverified lost failure.message
  | .ok session => holding session (readBack session next action lost)

/-- Send the successor over a session: its outcome, or how the connection was lost. -/
def submit (session : Session) (next : ReplicaConfig) (action : ReplicaSetAction) :
    Step (Except Failure ReplicaSetOutcome) := do
  let fields := [("replica_set", next.id), ("version", toString next.version.toNat)]
  match ← send session (.reconfig next) with
  | .ok reply =>
    if reply.isOk then
      report .replicaSetReconfigured fields
      return .ok (.configCurrent next.version action)
    else fail ("reconfig rejected: " ++ reply.reason)
  | .error failure =>
    if failure.isTimeout then
      report .replicaSetReconfigPending fields
      settle (.pendingConvergence failure.message)
    else return .error failure

/-- Replace the live configuration by its successor. -/
def reconfigure (port : UInt16) (live next : ReplicaConfig) (action : ReplicaSetAction) :
    Step ReplicaSetOutcome := do
  if !(← fitting (next.isSuccessorOf live)) then
    fail ("refusing reconfig from version " ++ toString live.version.toNat ++ " to " ++
      toString next.version.toNat)
  let session ← openAt (.members live.hosts)
  match ← holding session (submit session next action) with
  | .ok outcome => return outcome
  | .error lost => verify port next action lost

/-! ## From the live configuration to the desired members -/

/-- The live configuration stays. -/
def keep (live : ReplicaConfig) (name : String) : Step ReplicaSetOutcome := do
  report .replicaSetAlreadyConfigured
    [("replica_set", name), ("version", toString live.version.toNat)]
  return .configCurrent live.version .unchanged

/-- Rename the live members. -/
def migrate (port : UInt16) (name : String) (desired : DesiredMembers) (live : ReplicaConfig) :
    Step ReplicaSetOutcome := do
  match live.renamed desired.ipToHost with
  | .error .overflow => throw .overflow
  | .error reason => fail reason.message
  | .ok next =>
    report .replicaSetHostnameMigration
      [("replica_set", name), ("version", toString live.version.toNat)]
    reconfigure port live next .hostnameMigration

/-- Let members leave and join.  A configuration with the desired hosts stays, even under other ids,
since ids do not change. -/
def exchange (port : UInt16) (name : String) (desired : DesiredMembers) (live : ReplicaConfig) :
    Step ReplicaSetOutcome := do
  let (next, diff) ← fitting (live.withHosts desired.hosts)
  if diff.isEmpty then keep live name
  else
    report .replicaSetMemberDiff
      [("added", ",".intercalate diff.added), ("removed", ",".intercalate diff.removed),
        ("replica_set", name)]
    reconfigure port live next (.memberDiff diff)

/-- Bring a live configuration to the desired members. -/
def adjust (port : UInt16) (name : String) (desired : DesiredMembers) (live : ReplicaConfig) :
    Step ReplicaSetOutcome :=
  match desired.compare live with
  | .current => keep live name
  | .byNumber => migrate port name desired live
  | .drift => exchange port name desired live

/-- Bring a replica set to the desired members. -/
def converge (port : UInt16) (name : String) (desired : DesiredMembers) :
    Step ReplicaSetOutcome := do
  let session ← openAt (.localhost port)
  match ← holding session (initiateOrFetch session name desired.byHost) with
  | none => return .configCurrent initialVersion .initiated
  | some live => adjust port name desired live

end Step

open Activity in
/-- Bring a replica set to the members that its candidates make up.  Without candidates nothing is
done; on a node that is on its own that is an error. -/
def convergeReplicaSet (port : UInt16) (solo : Bool) (name : String) (candidates : List Node) :
    ExceptT Abort Activity ReplicaSetOutcome := do
  if candidates.isEmpty then
    report .replicaSetNoMembers [("replica_set", name)]
    if solo then throw (.error (.noMembers name))
    return .noMembersFound
  let desired := DesiredMembers.ofCandidates candidates
  report .replicaSetConfiguring
    [("replica_set", name), ("members", ",".intercalate desired.hosts)]
  match ← (Step.converge port name desired).run with
  | .error .overflow => throw .overflow
  | .ok outcome | .error (.settled outcome) =>
    if let .failed reason := outcome then
      report .replicaSetFailed [("replica_set", name), ("reason", reason)]
    return outcome

open Activity in
/-- Read the live configuration of a replica set; there is none before it is initiated. -/
def liveConfig (port : UInt16) (name : String) :
    Activity (Except Failure (Option ReplicaConfig)) := do
  match ← connect (.localhost port) with
  | .error failure => return .error failure
  | .ok session =>
    let result ← send session (.getConfig name)
    release session
    return result.map fun reply => if reply.isOk then reply.config else none

end ClusterConvergence
