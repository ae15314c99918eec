import ClusterConvergence.Cli.Error
import ClusterConvergence.Run.Settings
import ClusterConvergence.Journal.Severity
import ClusterConvergence.Json.Decode
import ClusterConvergence.Sharding.Collection

/-!
# Configuration files

A configuration file is decoded, then checked: what it says is put into the types of the library, and
values that no run can work with are refused.  Members with unknown names are refused as well.
-/

namespace ClusterConvergence

/-- What stands in a configuration file. -/
structure ConfigFile where
  nodeName : String
  clusterName : Option String := none
  environment : String := ""
  instanceType : String
  port : UInt16 := defaultPort
  replicated : Bool := false
  replicaSetName : Option String := none
  shardName : String := defaultShard
  opTimeoutMs : UInt64 := 5000
  connectTimeoutMs : UInt64 := 5000
  solo : Bool := false
  logLevel : String := "info"
  inventoryPath : String := "./inventory.json"
  shardedCollections : Dict String := Dict.empty
  deriving DecidableEq

namespace ConfigFile

/-- The fields of a configuration file in their order. -/
def shape : Decoder.Shape ConfigFile where
  closed := true
  fields := [
    Decoder.field "node_name" .string fun file x => { file with nodeName := x },
    Decoder.field "cluster_name" (.optional .string)
      (fun file x => { file with clusterName := x }) false,
    Decoder.field "environment" .string (fun file x => { file with environment := x }) false,
    Decoder.field "instance_type" .string fun file x => { file with instanceType := x },
    Decoder.field "port" .uint16 (fun file x => { file with port := x }) false,
    Decoder.field "replicated" .bool (fun file x => { file with replicated := x }) false,
    Decoder.field "replicaset_name" (.optional .string)
      (fun file x => { file with replicaSetName := x }) false,
    Decoder.field "shard_name" .string (fun file x => { file with shardName := x }) false,
    Decoder.field "op_timeout_ms" .uint64 (fun file x => { file with opTimeoutMs := x }) false,
    Decoder.field "connect_timeout_ms" .uint64
      (fun file x => { file with connectTimeoutMs := x }) false,
    Decoder.field "solo" .bool (fun file x => { file with solo := x }) false,
    Decoder.field "log_level" .string (fun file x => { file with logLevel := x }) false,
    Decoder.field "inventory_path" .string (fun file x => { file with inventoryPath := x }) false,
    Decoder.field "sharded_collections" (.dict .string)
      (fun file x => { file with shardedCollections := x }) false]

/-- Decode a configuration file. -/
def decode : Decoder ConfigFile :=
  shape.decode { nodeName := "", instanceType := "" }

/-- A configuration file with all its fields. -/
def toJson (file : ConfigFile) : Json :=
  .object [
    ("node_name", .string file.nodeName),
    ("cluster_name", .stringOrNull file.clusterName),
    ("environment", .string file.environment),
    ("instance_type", .string file.instanceType),
    ("port", .nat file.port.toNat),
    ("replicated", .bool file.replicated),
    ("replicaset_name", .stringOrNull file.replicaSetName),
    ("shard_name", .string file.shardName),
    ("op_timeout_ms", .nat file.opTimeoutMs.toNat),
    ("connect_timeout_ms", .nat file.connectTimeoutMs.toNat),
    ("solo", .bool file.solo),
    ("log_level", .string file.logLevel),
    ("inventory_path", .string file.inventoryPath),
    ("sharded_collections", Json.ofDict .string file.shardedCollections)]

/-- The kind of daemon that a file names. -/
def daemon (file : ConfigFile) : Except CliError Daemon :=
  (Daemon.parse file.instanceType).mapError fun e => .config e.message

/-- The least severity that a file asks for. -/
def least (file : ConfigFile) : Except CliError Severity :=
  (Severity.parse file.logLevel).mapError fun e => .config ("Invalid log_level: " ++ e.message)

/-- The collections that a file wants to be sharded. -/
def collections (file : ConfigFile) : Except CliError (List ShardedCollection) :=
  (ShardedCollection.parseAll file.shardedCollections).mapError fun e => .config e.message

/-- Refuse a file for a reason. -/
def refuseIf (condition : Bool) (reason : String) : Except CliError Unit :=
  if condition then .error (.config reason) else .ok ()

end ConfigFile

/-- A checked configuration. -/
structure Config where
  file : ConfigFile
  daemon : Daemon
  /-- Journal lines of a lower severity are dropped. -/
  least : Severity
  deriving DecidableEq

namespace Config

/-- Check a configuration file. -/
def ofFile (file : ConfigFile) : Except CliError Config := do
  ConfigFile.refuseIf (isBlankText file.nodeName) "node_name must not be empty"
  let daemon ← file.daemon
  ConfigFile.refuseIf (file.port == 0) "port must be > 0"
  ConfigFile.refuseIf (file.opTimeoutMs == 0) "op_timeout_ms must be > 0"
  ConfigFile.refuseIf (file.connectTimeoutMs == 0) "connect_timeout_ms must be > 0"
  let least ← file.least
  ConfigFile.refuseIf (isBlankText file.shardName) "shard_name must not be empty"
  let _ ← file.collections
  return { file := file, daemon := daemon, least := least }

/-- Read a configuration file. -/
def parse (text : String) : Except CliError Config :=
  match Decoder.run ConfigFile.decode text with
  | .ok file => ofFile file
  | .error e => .error (.config ("Invalid config JSON: " ++ e.message))

/-- The replica set that the node converges, if any. -/
def replicaSet (config : Config) : Option String :=
  config.daemon.replicaSet? config.file.replicated config.file.replicaSetName
    config.file.shardName

/-- The settings of a run. -/
def settings (config : Config) : Settings :=
  let file := config.file
  { nodeName := file.nodeName
    clusterName := file.clusterName
    environment := file.environment
    daemon := config.daemon
    port := file.port
    replicaSet := config.replicaSet
    shard := file.shardName
    solo := file.solo
    collections := file.shardedCollections }

end Config

end ClusterConvergence
