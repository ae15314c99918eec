import ClusterConvergence.Json.Quoted
import ClusterConvergence.Journal.Severity

/-!
# Journal lines

One event as one line: a JSON object whose members are all strings.  The header comes first (event,
severity, time stamp, and the run it belongs to, if any), then the fields in ascending order of their
names; fields of the same name keep their order.
-/

namespace ClusterConvergence

/-- Names and texts that say more about an event. -/
abbrev Fields : Type := List (String × String)

/-- Fields in ascending order of their names, those of one name in their given order. -/
def Fields.sorted (fields : Fields) : Fields :=
  fields.mergeSort fun a b => decide (a.1 ≤ b.1)

/-- One event of the journal. -/
structure Line where
  severity : Severity
  /-- The name of the event. -/
  event : String
  /-- The run that the event belongs to. -/
  runId : Option String := none
  fields : Fields := []
  deriving DecidableEq, Repr

namespace Line

/-- The members of the line in their order. -/
def members (line : Line) (stamp : String) : Fields :=
  [("event", line.event), ("severity", line.severity.name), ("ts", stamp)] ++
    (match line.runId with
      | some id => [("run_id", id)]
      | none => []) ++
    line.fields.sorted

/-- One member in its written form. -/
def memberChars (member : String × String) : List Char :=
  QuoteStyle.journal.quote member.1 ++ ':' :: QuoteStyle.journal.quote member.2

/-- The line with the given time stamp, and the newline that ends it. -/
def chars (line : Line) (stamp : String) : List Char :=
  '{' :: List.intercalate [','] ((line.members stamp).map memberChars) ++ ['}', '\n']

/-- The text of the line, with the newline that ends it. -/
def render (line : Line) (stamp : String) : String :=
  String.ofList (line.chars stamp)

/-- Whether the line belongs on the stream for errors. -/
def isError (line : Line) : Bool :=
  Severity.error ≤ line.severity

end Line

end ClusterConvergence
