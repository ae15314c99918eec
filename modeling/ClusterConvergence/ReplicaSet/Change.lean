import ClusterConvergence.ReplicaSet.Config
import ClusterConvergence.Text.Dict

/-!
# Changing a replica set

The two ways in which a live configuration is brought to another membership.  Either the members are
renamed, each keeping its id, or members leave and others join.  A member that stays keeps its id and
its place; one that joins gets an id above every id in use, so that no id passes from one host to
another.
-/

namespace ClusterConvergence

/-- Why members cannot be renamed. -/
inductive RenameError where
  /-- There is no new name for this host. -/
  | unmapped (host : String)
  | overflow
  deriving DecidableEq, Repr

/-- The wording of the reason. -/
def RenameError.message : RenameError → String
  | .unmapped host => "no hostname known for member '" ++ host ++ "'"
  | .overflow => Overflow.message ⟨⟩

/-- The hosts that leave a replica set and those that join it. -/
structure MemberDiff where
  removed : List String
  added : List String
  deriving DecidableEq, Repr

namespace MemberDiff

/-- Whether nothing changes. -/
def isEmpty (diff : MemberDiff) : Bool :=
  diff.removed.isEmpty && diff.added.isEmpty

end MemberDiff

namespace Member

/-- Hosts as members with consecutive ids.  The id behind the last one has to exist as well. -/
def number (id : UInt32) : List String → Except Overflow (List Member)
  | [] => .ok []
  | host :: hosts => do
    let next ← nextId id
    let rest ← number next hosts
    return ⟨id, host⟩ :: rest

/-- Members under their new hosts; the first host without one is reported. -/
def rename (newHost : Dict String) : List Member → Except RenameError (List Member)
  | [] => .ok []
  | member :: members =>
    match newHost.get? member.host with
    | none => .error (.unmapped member.host)
    | some host => do
      let rest ← rename newHost members
      return ⟨member.id, host⟩ :: rest

end Member

namespace ReplicaConfig

/-- The successor whose members are renamed. -/
def renamed (live : ReplicaConfig) (newHost : Dict String) : Except RenameError ReplicaConfig := do
  let members ← Member.rename newHost live.members
  match nextVersion live.version with
  | .ok version => return { id := live.id, version := version, members := members }
  | .error _ => throw .overflow

/-- The members that stay when the hosts are to be `desired`. -/
def kept (live : ReplicaConfig) (desired : List String) : List Member :=
  live.members.filter fun m => desired.contains m.host

/-- The hosts that leave and those that join when the hosts are to be `desired`. -/
def diff (live : ReplicaConfig) (desired : List String) : MemberDiff where
  removed := live.hosts.filter fun h => !desired.contains h
  added := (desired.filter fun h => !live.hosts.contains h).eraseDups

/-- The first id above every id in use. -/
def freshId (live : ReplicaConfig) : Except Overflow UInt32 :=
  match live.maxId? with
  | none => .ok 0
  | some id => nextId id

/-- The successor whose hosts are the desired ones, and what it changes. -/
def withHosts (live : ReplicaConfig) (desired : List String) :
    Except Overflow (ReplicaConfig × MemberDiff) := do
  let change := live.diff desired
  let fresh ← live.freshId
  let joined ← Member.number fresh change.added
  let version ← nextVersion live.version
  return ({ id := live.id, version := version, members := live.kept desired ++ joined }, change)

end ReplicaConfig

end ClusterConvergence
