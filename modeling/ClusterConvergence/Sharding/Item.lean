import ClusterConvergence.Admin.Command
import ClusterConvergence.Admin.Reply
import ClusterConvergence.Journal.Event
import ClusterConvergence.Journal.Line
import ClusterConvergence.Sharding.Collection

/-!
# Items

What is submitted to the routing layer, one command for each item, and what became of it.  A refusal
that says that the item was in place before counts as success; only a failed item makes a run fail.
-/

namespace ClusterConvergence

/-- What is submitted to the routing layer, once per run. -/
inductive Item where
  /-- The spec of a shard, to be registered. -/
  | shard (spec : String)
  /-- A database, to be enabled for sharding. -/
  | database (name : String)
  /-- A collection, to be sharded. -/
  | collection (collection : ShardedCollection)
  deriving DecidableEq, Repr

/-- What became of an item. -/
inductive ItemStatus where
  | applied
  /-- It was in place before. -/
  | alreadyApplied
  /-- It was sent and there was no answer in time. -/
  | pending
  /-- The routing layer could not be reached. -/
  | connectionFailed
  | failed
  deriving DecidableEq, Repr

namespace ItemStatus

/-- The name of the status. -/
def name : ItemStatus → String
  | .applied => "applied"
  | .alreadyApplied => "already_applied"
  | .pending => "pending"
  | .connectionFailed => "connection_failed"
  | .failed => "failed"

/-- Whether the item is in place. -/
def isSuccess : ItemStatus → Bool
  | .applied => true
  | .alreadyApplied => true
  | _ => false

end ItemStatus

/-- What became of an item, and why. -/
structure ItemOutcome where
  item : Item
  status : ItemStatus
  /-- Why the item is not in place. -/
  detail : Option String := none
  deriving DecidableEq, Repr

namespace ItemOutcome

/-- Whether the item failed. -/
def isFailed (outcome : ItemOutcome) : Bool :=
  outcome.status = .failed

end ItemOutcome

/-- What happened to a command for the routing layer. -/
inductive Routed where
  | reply (reply : Reply)
  /-- There was no answer in time. -/
  | timeout (reason : String)
  /-- No session could be opened, or it was lost during the command. -/
  | unreachable (reason : String)

namespace Item

/-- The name of an item. -/
def name : Item → String
  | .shard spec => spec
  | .database name => name
  | .collection c => c.ns

/-- The command that submits an item. -/
def command : Item → AdminCommand
  | .shard spec => .addShard spec
  | .database name => .enableSharding name
  | .collection c => .shardCollection c.ns c.keyDocument

/-- What a refusal says if the item was in place before. -/
def marker : Item → String
  | .shard _ => Reply.alreadyExists
  | .database _ => Reply.alreadyEnabled
  | .collection _ => Reply.alreadySharded

/-- The field of a journal line that names the item. -/
def field : Item → String
  | .shard _ => "shard"
  | .database _ => "database"
  | .collection _ => "namespace"

/-- The event that says what became of an item; that the routing layer was lost is reported once, and
not for each item. -/
def event? : Item → ItemStatus → Option Event
  | _, .connectionFailed => none
  | .shard _, .applied => some .shardAdded
  | .shard _, .alreadyApplied => some .shardAlreadyRegistered
  | .shard _, .pending => some .shardAddPending
  | .shard _, .failed => some .shardAddFailed
  | .database _, .applied => some .shardingEnabled
  | .database _, .alreadyApplied => some .shardingAlreadyEnabled
  | .database _, .pending => some .shardingEnablePending
  | .database _, .failed => some .shardingEnableFailed
  | .collection _, .applied => some .collectionSharded
  | .collection _, .alreadyApplied => some .collectionAlreadySharded
  | .collection _, .pending => some .collectionShardPending
  | .collection _, .failed => some .collectionShardFailed

/-- The name that a registered shard was given. -/
def givenName (item : Item) (routed : Routed) : Fields :=
  match item, routed with
  | .shard spec, .reply reply => [("name", reply.shardAdded.getD spec)]
  | _, _ => []

/-- What became of an item. -/
def outcome (item : Item) (routed : Routed) : ItemOutcome :=
  match routed with
  | .reply reply =>
    if reply.isOk then ⟨item, .applied, none⟩
    else if reply.reports item.marker then ⟨item, .alreadyApplied, none⟩
    else ⟨item, .failed, some reply.reason⟩
  | .timeout reason => ⟨item, .pending, some reason⟩
  | .unreachable reason => ⟨item, .connectionFailed, some reason⟩

/-- The fields of the event that says what became of an item. -/
def fields (item : Item) (routed : Routed) : Fields :=
  let outcome := item.outcome routed
  (item.field, item.name) ::
    ((if outcome.status = .applied then item.givenName routed else []) ++
      match outcome.detail with
      | some reason => [("reason", reason)]
      | none => [])

end Item

end ClusterConvergence
