/-!
# What stops a run

Everything that can go wrong on the wire becomes an outcome of a run.  A run is stopped only by its
own input: a role or a kind of daemon that does not exist, a setting that makes no sense, a cluster
without the nodes that it needs, or an inventory that cannot be read.  Each cause has a code that
stays the same and a wording.

Version numbers and member ids have a fixed width.  `Overflow` says that the next one does not exist.
-/

namespace ClusterConvergence

/-- Why a run is stopped. -/
inductive RunError where
  /-- A text that names no role and no kind of daemon. -/
  | unknownKind (text : String)
  /-- A replica set without candidates on a node that is on its own. -/
  | noMembers (replicaSet : String)
  | invalidConfiguration (reason : String)
  /-- A number of config servers that is neither one nor three. -/
  | configServerCount (found : Nat)
  /-- Candidate nodes could not be listed. -/
  | discovery (reason : String)
  deriving DecidableEq, Repr

namespace RunError

/-- The code of the cause. -/
def code : RunError → String
  | .unknownKind _ => "SHARDKEEPER_INVALID_SHARD_TYPE"
  | .noMembers _ => "SHARDKEEPER_NO_MEMBERS_FOUND"
  | .invalidConfiguration _ => "SHARDKEEPER_INVALID_CONFIGURATION"
  | .configServerCount _ => "SHARDKEEPER_WRONG_CONFIG_SERVER_COUNT"
  | .discovery _ => "SHARDKEEPER_DISCOVERY_FAILED"

/-- The wording of the cause. -/
def message : RunError → String
  | .unknownKind text => "Unknown shard type: '" ++ text ++ "'"
  | .noMembers replicaSet => "No members found for replica set '" ++ replicaSet ++ "'"
  | .invalidConfiguration reason => "Invalid configuration: " ++ reason
  | .configServerCount found =>
    "Wrong number of config servers: found " ++ toString found ++ ", expected 1 or 3"
  | .discovery reason => "Discovery failed: " ++ reason

/-- Whether the cause stops the run before anything else is changed; each one does. -/
def isFatal : RunError → Bool
  | _ => true

end RunError

/-- The next number does not fit its width. -/
structure Overflow where
  deriving DecidableEq, Repr

/-- The wording of an overflow. -/
def Overflow.message (_ : Overflow) : String :=
  "attempt to add with overflow"

/-- How an activity ends that does not come to its result. -/
inductive Abort where
  | error (cause : RunError)
  | overflow
  deriving DecidableEq, Repr

end ClusterConvergence
