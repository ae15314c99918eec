import ClusterConvergence.Json.Decode
import ClusterConvergence.Node.Basic

/-!
# Node documents

A node as an entry of an inventory.
-/

namespace ClusterConvergence

/-- A role by its name. -/
def Decoder.role : Decoder Role := fun source doc => do
  match Role.parse (← Decoder.string source doc) with
  | .ok role => return role
  | .error e => throw (.refused e.message)

namespace Node

/-- The fields of a node in their order. -/
def shape : Decoder.Shape Node where
  fields := [
    Decoder.field "name" .string fun node x => { node with name := x },
    Decoder.field "fqdn" .string fun node x => { node with fqdn := x },
    Decoder.field "ip_address" .string fun node x => { node with ipAddress := x },
    Decoder.field "port" .uint16 (fun node x => { node with port := x }) false,
    Decoder.field "is_replica_set_member" .bool
      (fun node x => { node with inReplicaSet := x }) false,
    Decoder.field "replica_set_name" (.optional .string)
      (fun node x => { node with replicaSetName := x }) false,
    Decoder.field "environment" .string (fun node x => { node with environment := x }) false,
    Decoder.field "cluster_name" (.optional .string)
      (fun node x => { node with clusterName := x }) false,
    Decoder.field "shard_name" (.optional .string)
      (fun node x => { node with shardName := x }) false,
    Decoder.field "roles" (.list .role) (fun node x => { node with roles := x }) false]

/-- Decode a node. -/
def decode : Decoder Node :=
  shape.decode { name := "", fqdn := "", ipAddress := "" }

/-- A node with all its fields. -/
def toJson (node : Node) : Json :=
  .object [
    ("name", .string node.name),
    ("fqdn", .string node.fqdn),
    ("ip_address", .string node.ipAddress),
    ("port", .nat node.port.toNat),
    ("is_replica_set_member", .bool node.inReplicaSet),
    ("replica_set_name", .stringOrNull node.replicaSetName),
    ("environment", .string node.environment),
    ("cluster_name", .stringOrNull node.clusterName),
    ("shard_name", .stringOrNull node.shardName),
    ("roles", .strings (node.roles.map Role.name))]

end Node

end ClusterConvergence
