import ClusterConvergence.Cli.Args
import ClusterConvergence.Cli.Config
import ClusterConvergence.Cli.Files
import ClusterConvergence.Node.Inventory
import ClusterConvergence.Run.Document

/-!
# Commands of the command line

Each command reads the configuration file, does its work and answers with one document.  Where files
are read from is left open: it may be a directory as a value or the one the program runs in.
-/

namespace ClusterConvergence

/-- How a command ends without an answer. -/
inductive CliAbort where
  | error (cause : CliError)
  | overflow
  deriving DecidableEq, Repr

/-- The end of a command: its answer, if there is one, and the error, if there is one. -/
structure Ending where
  answer : Option Json := none
  abort : Option CliAbort := none

namespace Ending

/-- The line that holds the answer, without its newline. -/
def line? (ending : Ending) : Option String :=
  ending.answer.map fun data =>
    (Json.object [("status", .string "ok"), ("data", data)]).sorted.render

end Ending

namespace Cli

variable {m : Type → Type} [Monad m]

/-- A part of a command: `m` reads files. -/
abbrev Part (m : Type → Type) (α : Type) : Type := ExceptT CliAbort (StateT Site m) α

/-- Read a file. -/
abbrev Reading (m : Type → Type) : Type := String → m (Except ReadFault String)

/-- Stop for an error of the command line. -/
def orFail {α : Type} : Except CliError α → Part m α
  | .ok a => return a
  | .error cause => throw (.error cause)

/-- Stop for a cause that stops runs and plans. -/
def orAbort {α : Type} : Except RunError α → Part m α
  | .ok a => return a
  | .error cause => throw (.error (.aborted cause))

/-- An activity as a part of a command. -/
def act {α : Type} (activity : Activity α) : Part m α :=
  ExceptT.lift (StateT.mk fun site => pure (activity site))

/-- Read the configuration; the journal follows it from then on. -/
def loadConfig (read : Reading m) (path : String) : Part m Config := do
  let content ← ExceptT.lift (StateT.lift (read path))
  let config ← orFail do
    let text ← content.mapError fun fault => .config ("Failed to read config: " ++ fault.message)
    Config.parse text
  act (Activity.onJournal fun journal => ((), { journal with least := config.least }))
  act (Activity.report .configLoaded
    [("path", path), ("instance_type", config.file.instanceType)])
  return config

/-- The nodes of the inventory at a path; faults of the inventory name the path. -/
def inventoryAt (path : String) : Except ReadFault String → Except RunError (List Node)
  | .error fault =>
    .error (.discovery ("cannot read inventory " ++ path ++ ": " ++ fault.message))
  | .ok text =>
    match parseInventory text with
    | .error (.discovery reason) => .error (.discovery (path ++ ": " ++ reason))
    | result => result

/-- Read the inventory that a configuration names. -/
def loadInventory (read : Reading m) (config : Config) : Part m Discovery := do
  let path := config.file.inventoryPath
  let content ← ExceptT.lift (StateT.lift (read path))
  let nodes ← orAbort (inventoryAt path content)
  return { nodes := nodes }

/-- Run; the report is the answer, also if there were failures. -/
def run (read : Reading m) (runId path : String) : Part m Ending := do
  let config ← loadConfig read path
  let discovery ← loadInventory read config
  match ← act (Run.execute runId config.settings discovery) with
  | .error .overflow => throw .overflow
  | .error (.error cause) => orAbort (.error cause)
  | .ok report =>
    return {
      answer := some report.toJson
      abort := if report.hasFailures then some (.error (.runFailed report.runId)) else none }

/-- Show what a run would submit. -/
def plan (read : Reading m) (path : String) : Part m Ending := do
  let config ← loadConfig read path
  let discovery ← loadInventory read config
  let result ← act (Activity.onJournal (Plan.make config.settings discovery).run)
  let plan ← orAbort result
  return { answer := some plan.toJson }

/-- Show the live configuration of the node's replica set. -/
def inspect (read : Reading m) (path : String) : Part m Ending := do
  let config ← loadConfig read path
  match config.replicaSet with
  | none =>
    orFail (.error (.config ("instance type '" ++ config.file.instanceType ++
      "' does not reconcile a replica set")))
  | some name =>
    match ← act (liveConfig config.file.port name) with
    | .error failure => orFail (.error (.connectionFailed failure.message))
    | .ok live =>
      return {
        answer := some (.object [
          ("replica_set", .string name),
          ("initialized", .bool live.isSome),
          ("config", (live.map ReplicaConfig.toJson).getD .null)]) }

/-- Carry out what the arguments ask for. -/
def execute (read : Reading m) (runId : String) (invocation : Invocation) : StateT Site m Ending := do
  let part : Part m Ending :=
    match invocation.command with
    | .run => run read runId invocation.config
    | .plan => plan read invocation.config
    | .inspect => inspect read invocation.config
  match ← part.run with
  | .ok ending => return ending
  | .error abort => return { abort := some abort }

end Cli

end ClusterConvergence
