import ClusterConvergence.Admin.Command
import ClusterConvergence.Admin.Reply

/-!
# The simulated cluster

A cluster with one replica set and one routing layer, as far as administrative commands can tell, and
what can be arranged around it: addresses that do not answer, a limit on connections, and faults that
hit the next command of a name.  It remembers the commands that it received and the connections that
were opened.

This file holds the state and what is arranged from outside; `Cluster.apply` answers commands, and
`Cluster.run` lets faults interfere.
-/

namespace ClusterConvergence

/-- What happens to a command instead of an answer, or to its answer. -/
inductive Fault where
  /-- The command has no effect and there is no answer in time. -/
  | timeout
  /-- The command has its effect and there is no answer in time. -/
  | timeoutAfterApply
  /-- The command has no effect and the connection is lost. -/
  | drop
  /-- The command has its effect and the connection is lost. -/
  | dropAfterApply
  /-- The command has no effect and this is the answer. -/
  | reply (reply : Reply)

/-- A simulated cluster. -/
structure Cluster where
  /-- The live configuration of the replica set, once it is initiated. -/
  replicaSet : Option ReplicaConfig := none
  /-- The specs of the registered shards in the order of their registration. -/
  shards : List String := []
  /-- The databases that are enabled for sharding. -/
  databases : NameSet := Dict.empty
  /-- The sharded collections with their key documents. -/
  collections : Dict (Dict Int32) := Dict.empty
  /-- The one address that is the primary; without it every address is. -/
  primary : Option String := none
  /-- The addresses at which no connection can be opened. -/
  unreachable : NameSet := Dict.empty
  /-- How many more connections can be opened, if there is a limit. -/
  budget : Option Nat := none
  /-- The pending faults, each with the name of the command that it is for. -/
  faults : List (String × Fault) := []
  /-- Every command that was received. -/
  commands : List AdminCommand := []
  /-- The address of every connection that was opened. -/
  connections : List String := []
  /-- How many sessions are open. -/
  openSessions : Nat := 0

namespace Cluster

instance : Inhabited Cluster := ⟨{}⟩

/-! ## What is arranged -/

/-- Have a fault wait for the next command of a name. -/
def inject (cluster : Cluster) (command : String) (fault : Fault) : Cluster :=
  { cluster with faults := cluster.faults ++ [(command, fault)] }

/-- Have an address not answer. -/
def markUnreachable (cluster : Cluster) (address : String) : Cluster :=
  { cluster with unreachable := cluster.unreachable.add address }

/-- Have an address answer again. -/
def markReachable (cluster : Cluster) (address : String) : Cluster :=
  { cluster with unreachable := cluster.unreachable.erase address }

/-- Allow only so many more connections. -/
def limitConnections (cluster : Cluster) (count : Nat) : Cluster :=
  { cluster with budget := some count }

/-- Make an address the only primary. -/
def setPrimary (cluster : Cluster) (address : String) : Cluster :=
  { cluster with primary := some address }

/-- Replace the live configuration, as another run would. -/
def setReplicaSet (cluster : Cluster) (config : ReplicaConfig) : Cluster :=
  { cluster with replicaSet := some config }

/-! ## What is seen -/

/-- How many commands of a name were received. -/
def count (cluster : Cluster) (command : String) : Nat :=
  cluster.commands.countP (·.name == command)

end Cluster

end ClusterConvergence
