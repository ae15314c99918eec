import ClusterConvergence.Json.Decode
import ClusterConvergence.ReplicaSet.Config

/-!
# Replica-set documents

Configurations as they are sent and received.
-/

namespace ClusterConvergence

namespace Member

/-- The fields of a member in their order. -/
def shape : Decoder.Shape Member where
  fields := [
    Decoder.field "_id" .uint32 fun member x => { member with id := x },
    Decoder.field "host" .string fun member x => { member with host := x }]

/-- Decode a member. -/
def decode : Decoder Member :=
  shape.decode ⟨0, ""⟩

/-- A member as a document. -/
def toJson (member : Member) : Json :=
  .object [("_id", .nat member.id.toNat), ("host", .string member.host)]

end Member

namespace ReplicaConfig

/-- The fields of a configuration in their order; the version may be missing. -/
def shape : Decoder.Shape ReplicaConfig where
  fields := [
    Decoder.field "_id" .string fun config x => { config with id := x },
    Decoder.field "version" .uint64 (fun config x => { config with version := x }) false,
    Decoder.field "members" (.list Member.decode) fun config x => { config with members := x }]

/-- Decode a configuration. -/
def decode : Decoder ReplicaConfig :=
  shape.decode { id := "", members := [] }

/-- A configuration as a document. -/
def toJson (config : ReplicaConfig) : Json :=
  .object [
    ("_id", .string config.id),
    ("version", .nat config.version.toNat),
    ("members", .array (config.members.map Member.toJson))]

end ReplicaConfig

end ClusterConvergence
