import ClusterConvergence.ReplicaSet.Change

/-!
# Outcomes of converging a replica set

Only a failed outcome makes a run fail; whatever is pending can be taken up by the next run.
-/

namespace ClusterConvergence

/-- What was done to a replica set. -/
inductive ReplicaSetAction where
  | initiated
  /-- It was as desired. -/
  | unchanged
  /-- Its members were renamed. -/
  | hostnameMigration
  /-- Members left and others joined. -/
  | memberDiff (diff : MemberDiff)
  deriving DecidableEq, Repr

/-- What converging a replica set came to. -/
inductive ReplicaSetOutcome where
  /-- The live configuration is the desired one. -/
  | configCurrent (version : UInt64) (action : ReplicaSetAction)
  /-- A command was sent and there was no answer in time. -/
  | pendingConvergence (reason : String)
  /-- The cluster could not be reached; nothing was done. -/
  | connectionFailed (target reason : String)
  /-- There were no candidates; nothing was done. -/
  | noMembersFound
  /-- A command was refused, or the replica set is not what it should be. -/
  | failed (reason : String)
  deriving DecidableEq, Repr

namespace ReplicaSetOutcome

/-- The name of the outcome. -/
def status : ReplicaSetOutcome → String
  | .configCurrent _ _ => "config_current"
  | .pendingConvergence _ => "pending_convergence"
  | .connectionFailed _ _ => "connection_failed"
  | .noMembersFound => "no_members_found"
  | .failed _ => "failed"

/-- Whether the outcome is a failure. -/
def isFailed : ReplicaSetOutcome → Bool
  | .failed _ => true
  | _ => false

/-- Whether the live configuration is the desired one. -/
def isCurrent : ReplicaSetOutcome → Bool
  | .configCurrent _ _ => true
  | _ => false

end ReplicaSetOutcome

end ClusterConvergence
