import ClusterConvergence.Admin.Failure
import ClusterConvergence.Cluster.Answer

/-!
# Sessions

Opening a session, sending commands over it and giving it back.  A command is received before a fault
can hit it; the first fault that waits for its name does.
-/

namespace ClusterConvergence

/-- Take the first fault that waits for a command. -/
def takeFault (command : String) :
    List (String × Fault) → Option Fault × List (String × Fault)
  | [] => (none, [])
  | (name, fault) :: rest =>
    if name = command then (some fault, rest)
    else
      let (taken, rest) := takeFault command rest
      (taken, (name, fault) :: rest)

namespace Failure

/-- No connection could be opened. -/
def refused (address : String) : Failure :=
  ⟨.connectionFailed, address ++ ": connection refused"⟩

/-- There was no answer in time. -/
def timedOut (address : String) (command : AdminCommand) : Failure :=
  ⟨.timeout, address ++ ": " ++ command.name ++ " timed out"⟩

/-- The connection was lost. -/
def dropped (address : String) (command : AdminCommand) : Failure :=
  ⟨.connectionFailed, address ++ ": connection dropped during " ++ command.name⟩

end Failure

/-- An open session. -/
structure Session where
  address : String
  deriving DecidableEq, Repr

namespace Cluster

/-- Whether a connection can be opened at an address. -/
def accepts (cluster : Cluster) (address : String) : Bool :=
  !cluster.unreachable.contains address && cluster.budget != some 0

/-- Open a session at an address. -/
def openSession (cluster : Cluster) (address : String) : Except Failure Session × Cluster :=
  if cluster.accepts address then
    (.ok ⟨address⟩,
      { cluster with
        budget := cluster.budget.map (· - 1)
        connections := cluster.connections ++ [address]
        openSessions := cluster.openSessions + 1 })
  else (.error (.refused address), cluster)

/-- Give a session back. -/
def release (cluster : Cluster) : Cluster :=
  { cluster with openSessions := cluster.openSessions - 1 }

/-- Receive a command: it is remembered, and the fault that hits it is taken. -/
def receive (cluster : Cluster) (command : AdminCommand) : Option Fault × Cluster :=
  let (fault, faults) := takeFault command.name cluster.faults
  (fault, { cluster with commands := cluster.commands ++ [command], faults := faults })

/-- Send a command over a session. -/
def run (cluster : Cluster) (session : Session) (command : AdminCommand) :
    Except Failure Reply × Cluster :=
  let address := session.address
  match cluster.receive command with
  | (none, cluster) =>
    let (reply, cluster) := cluster.apply address command
    (.ok reply, cluster)
  | (some .timeout, cluster) => (.error (.timedOut address command), cluster)
  | (some .timeoutAfterApply, cluster) =>
    (.error (.timedOut address command), (cluster.apply address command).2)
  | (some .drop, cluster) => (.error (.dropped address command), cluster)
  | (some .dropAfterApply, cluster) =>
    (.error (.dropped address command), (cluster.apply address command).2)
  | (some (.reply reply), cluster) => (.ok reply, cluster)

end Cluster

end ClusterConvergence
