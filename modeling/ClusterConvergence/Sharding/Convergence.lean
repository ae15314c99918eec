import ClusterConvergence.Sharding.Routing
import ClusterConvergence.Sharding.Spec

/-!
# Converging the shards

The shards that nodes make up are registered, and collections are sharded.  A database comes before
every collection.
-/

namespace ClusterConvergence

/-- Register the shards that nodes make up. -/
def registerShards (target : Target) (nodes : List Node) : Activity (List ItemOutcome) := do
  let specs := ShardSpec.ofNodes nodes
  Activity.report .shardsGrouped [("shards", toString specs.length)]
  submitItems target (specs.map fun spec => .shard spec.text)

/-- The items that shard collections: their databases, then the collections. -/
def shardingItems (collections : List ShardedCollection) : List Item :=
  (ShardedCollection.databases collections).map .database ++ collections.map .collection

/-- Shard collections; all of them are checked before one is sent. -/
def shardCollections (target : Target) (collections : Dict String) :
    ExceptT RunError Activity (List ItemOutcome) := do
  let parsed ← liftExcept (ShardedCollection.parseAll collections)
  submitItems target (shardingItems parsed)

end ClusterConvergence
