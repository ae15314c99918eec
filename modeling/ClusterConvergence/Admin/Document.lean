import ClusterConvergence.Admin.Command
import ClusterConvergence.Admin.Reply
import ClusterConvergence.ReplicaSet.Document

/-!
# Commands and replies as documents

A command is an object whose member `command` names it; the other members are its arguments.  The tag
may stand at any place, so the other members are read as values first, and the arguments are taken
out of them when the tag is known.  A command may also be written as an array of the tag and the
arguments.
-/

namespace ClusterConvergence

namespace Reply

/-- The fields of a reply in their order; each may be missing. -/
def shape : Decoder.Shape Reply where
  fields := [
    Decoder.field "ok" .float (fun reply x => { reply with ok := x }) false,
    Decoder.field "errmsg" (.optional .string) (fun reply x => { reply with errmsg := x }) false,
    Decoder.field "code" (.optional .int32) (fun reply x => { reply with code := x }) false,
    Decoder.field "config" (.optional ReplicaConfig.decode)
      (fun reply x => { reply with config := x }) false,
    Decoder.field "shardAdded" (.optional .string)
      (fun reply x => { reply with shardAdded := x }) false,
    Decoder.field "collectionsharded" (.optional .string)
      (fun reply x => { reply with collectionSharded := x }) false,
    Decoder.field "isWritablePrimary" (.optional .bool)
      (fun reply x => { reply with isWritablePrimary := x }) false,
    Decoder.field "primary" (.optional .string)
      (fun reply x => { reply with primary := x }) false]

/-- Decode a reply. -/
def decode : Decoder Reply :=
  shape.decode {}

/-- A reply as a document, without the members that have no value. -/
def toJson (reply : Reply) : Json :=
  .object (("ok", .real reply.ok) ::
    (Json.member? "errmsg" (reply.errmsg.map .string) ++
      Json.member? "code" (reply.code.map fun code => .integer code.toInt) ++
      Json.member? "config" (reply.config.map ReplicaConfig.toJson) ++
      Json.member? "shardAdded" (reply.shardAdded.map .string) ++
      Json.member? "collectionsharded" (reply.collectionSharded.map .string) ++
      Json.member? "isWritablePrimary" (reply.isWritablePrimary.map .bool) ++
      Json.member? "primary" (reply.primary.map .string)))

/-- The text of a reply. -/
def summary (reply : Reply) : String :=
  reply.toJson.render

end Reply

namespace AdminCommand

/-- The name of the tag. -/
def tagName : String := "command"

/-- The members of a command behind its tag. -/
def arguments : AdminCommand → List (String × Json)
  | .hello => []
  | .initiate config => [("config", config.toJson)]
  | .getConfig name => [("name", .string name)]
  | .reconfig config => [("config", config.toJson)]
  | .addShard shard => [("shard", .string shard)]
  | .enableSharding database => [("database", .string database)]
  | .shardCollection ns key =>
    [("namespace", .string ns), ("key", Json.ofDict (fun x => .integer x.toInt) key)]

/-- A command as a document. -/
def toJson (command : AdminCommand) : Json :=
  .object ((tagName, .string command.name) :: command.arguments)

/-- The text of a command. -/
def wire (command : AdminCommand) : String :=
  command.toJson.render

/-! ## Decoding -/

/-- Decode the arguments of a command without any; surplus members are passed over. -/
def noArguments : Decoder AdminCommand
  | _, .object _ => .ok .hello
  | _, .array [] => .ok .hello
  | _, .array (_ :: _) => .error .wrongLength
  | _, doc => .error doc.refusal

/-- Decode the one argument of a command. -/
def oneArgument {α : Type} (name : String) (decode : Decoder α) (initial : α)
    (command : α → AdminCommand) : Decoder AdminCommand := fun source doc =>
  let shape : Decoder.Shape α := { fields := [Decoder.field name decode fun _ x => x] }
  (shape.decode initial source doc).map command

/-- The two arguments of the command that shards a collection. -/
def collectionShape : Decoder.Shape (String × Dict Int32) where
  fields := [
    Decoder.field "namespace" .string fun args x => (x, args.2),
    Decoder.field "key" (.dict .int32) fun args x => (args.1, x)]

/-- What decodes the arguments behind a tag. -/
def decodeArguments? : String → Option (Decoder AdminCommand)
  | "hello" => some noArguments
  | "replSetInitiate" =>
    some (oneArgument "config" ReplicaConfig.decode { id := "", members := [] } .initiate)
  | "replSetGetConfig" => some (oneArgument "name" .string "" .getConfig)
  | "replSetReconfig" =>
    some (oneArgument "config" ReplicaConfig.decode { id := "", members := [] } .reconfig)
  | "addShard" => some (oneArgument "shard" .string "" .addShard)
  | "enablesharding" => some (oneArgument "database" .string "" .enableSharding)
  | "shardcollection" => some fun source doc =>
    (collectionShape.decode ("", Dict.empty) source doc).map fun args =>
      .shardCollection args.1 args.2
  | _ => none

/-- Decode a tag. -/
def decodeTag (doc : Doc) : Except DecodeError (Decoder AdminCommand) := do
  let tag ← Decoder.string .text doc
  match decodeArguments? tag with
  | some decode => return decode
  | none => throw (.unknownTag tag)

/-- Whether a member of a command can be read as a value. -/
def isArgument (doc : Doc) : Bool :=
  (doc.value? (Doc.depthLimit - 1)).isSome

/-- Go through the members of a command: what the tag stands for, and the other members as they are. -/
def splitTag (tag : Option (Decoder AdminCommand)) : List (Option String × Doc) →
    Except DecodeError (Decoder AdminCommand × List (Option String × Doc))
  | [] =>
    match tag with
    | some decode => .ok (decode, [])
    | none => .error (.missingField tagName)
  | (none, _) :: _ => .error .malformed
  | (some name, doc) :: members =>
    if name = tagName then
      match tag with
      | some _ => .error (.repeatedField tagName)
      | none => do
        let decode ← decodeTag doc
        splitTag (some decode) members
    else if isArgument doc then do
      let (decode, others) ← splitTag tag members
      return (decode, (some name, doc) :: others)
    else .error .malformed

/-- Decode a command. -/
def decode : Decoder AdminCommand
  | _, .object members => do
    let (decode, others) ← splitTag none members
    decode .value (.object others)
  | _, .array [] => .error (.missingField tagName)
  | _, .array (tag :: arguments) => do
    let decode ← decodeTag tag
    if arguments.all isArgument then decode .value (.array arguments) else throw .malformed
  | _, doc => .error doc.refusal

end AdminCommand

end ClusterConvergence
