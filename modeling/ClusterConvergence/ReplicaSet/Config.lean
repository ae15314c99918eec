import ClusterConvergence.Error

/-!
# Replica-set configurations

The list of members of a replica set under a version number.  A replica set is initiated once with
version 1; afterwards a configuration is only ever replaced by a successor, whose version is one
higher.

Main statements: `nextVersion_eq_ok_iff` and `nextId_eq_ok_iff` say that counting up gives the number
one higher, and nothing when the width is used up.
-/

namespace ClusterConvergence

/-- The version after another one. -/
def nextVersion (version : UInt64) : Except Overflow UInt64 :=
  if version.toNat + 1 < UInt64.size then .ok (version + 1) else .error ⟨⟩

/-- The member id after another one. -/
def nextId (id : UInt32) : Except Overflow UInt32 :=
  if id.toNat + 1 < UInt32.size then .ok (id + 1) else .error ⟨⟩

theorem nextVersion_eq_ok_iff {v w : UInt64} :
    nextVersion v = .ok w ↔ w.toNat = v.toNat + 1 := by
  rw [nextVersion]
  split
  · next h =>
    rw [Except.ok.injEq, ← UInt64.toNat_inj, UInt64.toNat_add]
    have : v.toNat + (1 : UInt64).toNat = v.toNat + 1 := rfl
    rw [this, Nat.mod_eq_of_lt h]
    exact eq_comm
  · next h =>
    have := w.toNat_lt_size
    simp only [reduceCtorEq, false_iff]
    omega

theorem nextId_eq_ok_iff {v w : UInt32} : nextId v = .ok w ↔ w.toNat = v.toNat + 1 := by
  rw [nextId]
  split
  · next h =>
    rw [Except.ok.injEq, ← UInt32.toNat_inj, UInt32.toNat_add]
    have : v.toNat + (1 : UInt32).toNat = v.toNat + 1 := rfl
    rw [this, Nat.mod_eq_of_lt h]
    exact eq_comm
  · next h =>
    have := w.toNat_lt_size
    simp only [reduceCtorEq, false_iff]
    omega

/-- A member of a replica set. -/
structure Member where
  id : UInt32
  /-- The address of the member. -/
  host : String
  deriving DecidableEq, Repr

namespace Member

/-- Whether a member may stand before another one: ids decide, then hosts. -/
def le (a b : Member) : Bool :=
  decide (a.id < b.id) || (a.id == b.id && decide (a.host ≤ b.host))

end Member

/-- Whether two lists hold the same members, each equally often, in any order. -/
def sameMembers (a b : List Member) : Bool :=
  a.mergeSort Member.le == b.mergeSort Member.le

/-- The version of a replica set that was just initiated. -/
def initialVersion : UInt64 := 1

/-- The configuration of a replica set. -/
structure ReplicaConfig where
  /-- The name of the replica set. -/
  id : String
  version : UInt64 := initialVersion
  members : List Member
  deriving DecidableEq, Repr

namespace ReplicaConfig

/-- The configuration with which a replica set is initiated. -/
def initial (id : String) (members : List Member) : ReplicaConfig :=
  { id := id, members := members }

/-- The hosts of the members in their order. -/
def hosts (config : ReplicaConfig) : List String :=
  config.members.map (·.host)

/-- The ids of the members in their order. -/
def ids (config : ReplicaConfig) : List UInt32 :=
  config.members.map (·.id)

/-- The highest id of a member. -/
def maxId? (config : ReplicaConfig) : Option UInt32 :=
  config.ids.max?

/-- Whether a configuration may replace another one: it belongs to the same replica set and has the
next version.  The next version is asked for only within the same replica set. -/
def isSuccessorOf (next live : ReplicaConfig) : Except Overflow Bool :=
  if next.id = live.id then do
    return next.version == (← nextVersion live.version)
  else
    return false

/-- Whether a configuration that was read back shows that an expected one was put into effect.  A
higher version will do, since another run may have made the same change first. -/
def reflects (live expected : ReplicaConfig) : Bool :=
  live.id == expected.id && decide (expected.version ≤ live.version) &&
    sameMembers live.members expected.members

end ReplicaConfig

end ClusterConvergence
