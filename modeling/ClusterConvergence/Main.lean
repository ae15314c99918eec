import ClusterConvergence.Cli.Command
import ClusterConvergence.Journal.Stamp
import Std.Time.DateTime.Timestamp

/-!
# The program

Reads its arguments, carries out the command and prints the journal and the answer.  No transport to a
real cluster belongs to it: it works for a cluster that opens no connection, so `plan` answers in
full, and `run` and `inspect` say that the cluster cannot be reached.
-/

namespace ClusterConvergence

/-- The fault of a file that the operating system does not open. -/
def ReadFault.ofIo : IO.Error → ReadFault
  | .noFileOrDirectory _ _ _ => .notFound
  | .inappropriateType _ code details =>
    if code = 21 then .isDirectory else if code = 20 then .notDirectory else .other details
  | e => .other (toString e)

/-- Read a file of the directory in which the program runs. -/
def readFile (path : String) : IO (Except ReadFault String) := do
  try
    let bytes ← IO.FS.readBinFile path
    match String.fromUTF8? bytes with
    | some text => return .ok text
    | none => return .error .notText
  catch e => return .error (.ofIo e)

/-- The time in milliseconds since the beginning of 1970. -/
def readClock : IO Nat := do
  let now ← Std.Time.Timestamp.now
  return now.toMillisecondsSinceUnixEpoch.val.toNat

/-- A new run id. -/
def newRunId : IO String := do
  let bytes ← IO.getRandomBytes 16
  return runIdOf bytes.toList

/-- Print a journal line where it belongs. -/
def printLine (stamp : String) (line : Line) : IO Unit :=
  if line.isError then IO.eprint (line.render stamp) else IO.print (line.render stamp)

/-- A site whose cluster opens no connection. -/
def offlineSite (clock : Nat) : Site where
  cluster := Cluster.limitConnections {} 0
  journal := { clock := clock }

/-- Carry out a command; the status with which the program ends. -/
def carryOut (invocation : Invocation) : IO UInt32 := do
  let clock ← readClock
  let runId ← newRunId
  let (ending, site) ← (Cli.execute readFile runId invocation).run (offlineSite clock)
  site.journal.lines.forM (printLine (stampOf clock))
  ending.line?.forM IO.println
  match ending.abort with
  | none => return 0
  | some (.error cause) =>
    IO.eprintln cause.text
    return 1
  | some .overflow =>
    IO.eprintln (Overflow.message ⟨⟩)
    return 101

/-- How the program is used. -/
def usage : String :=
  "Usage: shardkeeper <run|plan|inspect> [--config <CONFIG>]"

/-- What the program says when the arguments make no command, and the status with which it ends. -/
def refuse (e : ArgsError) : IO UInt32 := do
  match e with
  | .help => IO.println usage; return 0
  | .version => IO.println "shardkeeper 0.1.0"; return 0
  | _ => IO.eprintln usage; return 2

end ClusterConvergence

open ClusterConvergence in
/-- Carry out what the arguments ask for, or say how the program is used. -/
def main (args : List String) : IO UInt32 :=
  match Args.read args with
  | .ok invocation => carryOut invocation
  | .error e => refuse e
