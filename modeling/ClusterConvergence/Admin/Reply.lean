import ClusterConvergence.ReplicaSet.Config
import ClusterConvergence.Text.Occurrence

/-!
# Replies

What a cluster answers to a command.  A reply with `ok` below 1 refuses the command; the refusals
"already ..." say that there was nothing to do.
-/

namespace ClusterConvergence

/-- The answer to a command. -/
structure Reply where
  ok : Float := 0.0
  errmsg : Option String := none
  code : Option Int32 := none
  /-- The live configuration. -/
  config : Option ReplicaConfig := none
  /-- The name of a shard that was added. -/
  shardAdded : Option String := none
  /-- The namespace of a collection that was sharded. -/
  collectionSharded : Option String := none
  isWritablePrimary : Option Bool := none
  /-- The primary that the answering member knows of. -/
  primary : Option String := none

namespace Reply

/-- A reply that says no more than that the command was carried out. -/
def success : Reply := { ok := 1.0 }

/-- A reply that refuses the command. -/
def failure (errmsg : String) (code : Option Int32 := none) : Reply :=
  { errmsg := some errmsg, code := code }

/-- Whether the command was carried out. -/
def isOk (reply : Reply) : Bool :=
  decide (1.0 ≤ reply.ok)

/-- The reason of a refusal. -/
def reason (reply : Reply) : String :=
  reply.errmsg.getD "unknown error"

/-- Whether the command was refused with a reason in which `marker` stands; letters of the reason
count as small ones. -/
def reports (reply : Reply) (marker : String) : Bool :=
  !reply.isOk && match reply.errmsg with
    | some errmsg => occursIn marker.toList (errmsg.toList.map Char.toLower)
    | none => false

/-! ## What was there before -/

/-- The replica set is initiated. -/
def alreadyInitialized : String := "already initialized"

/-- The shard is registered. -/
def alreadyExists : String := "already exists"

/-- The database is enabled for sharding. -/
def alreadyEnabled : String := "already enabled"

/-- The collection is sharded. -/
def alreadySharded : String := "already sharded"

/-- Whether a shard was refused because it is registered; that a host belongs to another shard is a
different reason. -/
def reportsExistingShard (reply : Reply) : Bool :=
  reply.reports alreadyExists

end Reply

end ClusterConvergence
