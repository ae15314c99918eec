import ClusterConvergence.Node.Basic

/-!
# Daemons

The kind of daemon that a node runs, and the replica set that follows from it.
-/

namespace ClusterConvergence

/-- The kind of daemon on a node. -/
inductive Daemon where
  /-- A daemon that holds data, replicated or not. -/
  | mongod
  /-- A daemon that holds the data of a shard. -/
  | shard
  | configserver
  /-- The routing layer. -/
  | mongos
  deriving DecidableEq, Repr

namespace Daemon

/-- The name in a configuration file. -/
def name : Daemon → String
  | .mongod => "mongod"
  | .shard => "shard"
  | .configserver => "configserver"
  | .mongos => "mongos"

/-- The kind of a name, letter for letter. -/
def parse : String → Except RunError Daemon
  | "mongod" => .ok .mongod
  | "shard" => .ok .shard
  | "configserver" => .ok .configserver
  | "mongos" => .ok .mongos
  | text => .error (.unknownKind text)

@[simp] theorem parse_name (daemon : Daemon) : parse daemon.name = .ok daemon := by
  cases daemon <;> rfl

/-- Whether the daemon is the routing layer. -/
def isRouter (daemon : Daemon) : Bool :=
  daemon = .mongos

/-- The replica set that a daemon converges, if any.  The routing layer has none.  A shard has that of
its shard, whatever name is given.  The others have the given one, without the blanks around it; if
it is blank, they have that of their shard.  Without a given name there is a replica set only if the
daemon is replicated. -/
def replicaSet? (daemon : Daemon) (replicated : Bool) (given : Option String) (shard : String) :
    Option String :=
  let ofShard := if replicated then some (replicaSetOfShard shard) else none
  match daemon with
  | .mongos => none
  | .shard => ofShard
  | .mongod | .configserver =>
    match given with
    | some name => if isBlankText name then ofShard else some (trim name)
    | none => ofShard

end Daemon

end ClusterConvergence
