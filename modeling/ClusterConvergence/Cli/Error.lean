import ClusterConvergence.Error

/-!
# Errors of the command line

Each of them ends the program with a non-zero status.
-/

namespace ClusterConvergence

/-- Why a command of the command line fails. -/
inductive CliError where
  /-- The configuration file cannot be used. -/
  | config (reason : String)
  /-- Output could not be written. -/
  | output (reason : String)
  /-- A run or a plan was stopped. -/
  | aborted (cause : RunError)
  /-- A run had failed outcomes. -/
  | runFailed (runId : String)
  /-- The cluster could not be reached. -/
  | connectionFailed (reason : String)
  deriving DecidableEq, Repr

namespace CliError

/-- The code of the error. -/
def code : CliError → String
  | .config _ => "SHARDKEEPER_CLI_CONFIG_ERROR"
  | .output _ => "SHARDKEEPER_CLI_IO_ERROR"
  | .aborted _ => "SHARDKEEPER_CLI_RUN_ABORTED"
  | .runFailed _ => "SHARDKEEPER_CLI_RUN_FAILED"
  | .connectionFailed _ => "SHARDKEEPER_CLI_CONNECTION_FAILED"

/-- The wording of the error. -/
def message : CliError → String
  | .config reason => reason
  | .output reason => reason
  | .aborted cause => cause.message ++ " (" ++ cause.code ++ ")"
  | .runFailed runId => "run " ++ runId ++ " finished with failed outcomes"
  | .connectionFailed reason => reason

/-- The error as one text. -/
def text (e : CliError) : String :=
  e.code ++ ": " ++ e.message

end CliError

end ClusterConvergence
