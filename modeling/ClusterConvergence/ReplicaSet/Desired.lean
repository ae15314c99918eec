import ClusterConvergence.Node.Basic
import ClusterConvergence.ReplicaSet.Config
import ClusterConvergence.Text.Dict

/-!
# Desired members

The members that a replica set shall have, computed from its candidates, and how a live configuration
compares with them.  Early configurations know the members by number instead of by host name; such a
configuration is told apart from any other difference, because it is mended by renaming alone.
-/

namespace ClusterConvergence

/-- How a live configuration compares with the desired members. -/
inductive Comparison where
  /-- It has the desired members. -/
  | current
  /-- It has the desired members, each by its number. -/
  | byNumber
  /-- It differs in another way. -/
  | drift
  deriving DecidableEq, Repr

/-- Hosts as members; the ids are the places in the list. -/
def Member.enumerate (hosts : List String) : List Member :=
  hosts.zipIdx.map fun (host, place) => ⟨UInt32.ofNat place, host⟩

/-- The members that a replica set shall have. -/
structure DesiredMembers where
  /-- The members by host name. -/
  byHost : List Member
  /-- The same members by number. -/
  byIp : List Member
  /-- From the address by number to the address by host name. -/
  ipToHost : Dict String
  deriving DecidableEq

namespace DesiredMembers

/-- The members that candidates make up, in the order of their names. -/
def ofCandidates (candidates : List Node) : DesiredMembers :=
  let nodes := Node.sorted candidates
  { byHost := Member.enumerate (nodes.map Node.host)
    byIp := Member.enumerate (nodes.map Node.ipHost)
    ipToHost := Dict.ofList (nodes.map fun node => (node.ipHost, node.host)) }

/-- The desired hosts in the order of their ids. -/
def hosts (desired : DesiredMembers) : List String :=
  desired.byHost.map (·.host)

/-- Compare a live configuration with the desired members. -/
def compare (desired : DesiredMembers) (live : ReplicaConfig) : Comparison :=
  if sameMembers live.members desired.byHost then .current
  else if sameMembers live.members desired.byIp then .byNumber
  else .drift

end DesiredMembers

end ClusterConvergence
