import ClusterConvergence.Journal.Event
import ClusterConvergence.Journal.Line

/-!
# The journal

Everything that is reported, in order.  A journal drops what is below its least severity and marks
every line with the run that is going on.

A phase of a run is bracketed by two lines.  It begins with `NAME_BEGIN` and ends with
`NAME_COMPLETE`, with `NAME_FAILED`, or, when it is left behind by an error, with `NAME_INCOMPLETE`.
-/

namespace ClusterConvergence

/-- What has been reported so far. -/
structure Journal where
  /-- The time in milliseconds, as last read from outside. -/
  clock : Nat := 0
  /-- Lines of a lower severity are dropped. -/
  least : Severity := .info
  /-- The run that is going on. -/
  runId : Option String := none
  /-- The lines so far, the first one first. -/
  lines : List Line := []
  deriving Repr

namespace Journal

/-- Add a line, unless its severity is too low. -/
def log (journal : Journal) (severity : Severity) (event : String) (fields : Fields) : Journal :=
  if journal.least ≤ severity then
    { journal with lines := journal.lines ++ [⟨severity, event, journal.runId, fields⟩] }
  else journal

/-- Report an event. -/
def report (journal : Journal) (event : Event) (fields : Fields) : Journal :=
  journal.log event.severity event.name fields

end Journal

/-! ## Phases -/

/-- A phase that has begun and not ended. -/
structure Phase where
  name : String
  /-- When it began. -/
  begun : Nat
  deriving DecidableEq, Repr

namespace Phase

/-- Begin a phase. -/
def begin (name : String) (journal : Journal) : Phase × Journal :=
  (⟨name, journal.clock⟩, journal.log .info (name ++ "_BEGIN") [])

/-- The milliseconds since a phase began. -/
def elapsed (phase : Phase) (journal : Journal) : String :=
  toString (journal.clock - phase.begun)

/-- End a phase that did its work. -/
def complete (phase : Phase) (fields : Fields) (journal : Journal) : Journal :=
  journal.log .info (phase.name ++ "_COMPLETE") (("elapsed_ms", phase.elapsed journal) :: fields)

/-- End a phase with failures. -/
def fail (phase : Phase) (reason : String) (journal : Journal) : Journal :=
  journal.log .error (phase.name ++ "_FAILED")
    [("elapsed_ms", phase.elapsed journal), ("reason", reason)]

/-- Leave a phase behind. -/
def abandon (phase : Phase) (journal : Journal) : Journal :=
  journal.log .warn (phase.name ++ "_INCOMPLETE") [("reason", "phase ended without completion")]

end Phase

end ClusterConvergence
