/-!
# Severities

The five grades of a journal line, in ascending order.  Configuration files name them in any case;
`warning` is a second name of `warn`.
-/

namespace ClusterConvergence

/-- How serious a journal line is. -/
inductive Severity where
  /-- Detail of a connection. -/
  | trace
  /-- Something was done, or there was nothing to do. -/
  | info
  /-- Something was put off, timed out or could not be reached. -/
  | warn
  /-- A command failed. -/
  | error
  /-- The run cannot go on. -/
  | fatal
  deriving DecidableEq, Repr

/-- A text that names no severity, in lower case. -/
structure UnknownSeverity where
  text : String
  deriving DecidableEq, Repr

/-- The wording of the refusal. -/
def UnknownSeverity.message (e : UnknownSeverity) : String :=
  "unknown log level '" ++ e.text ++ "'"

namespace Severity

/-- The place in ascending order, from 0 on. -/
def rank : Severity → Nat
  | .trace => 0
  | .info => 1
  | .warn => 2
  | .error => 3
  | .fatal => 4

instance : LE Severity := ⟨fun a b => a.rank ≤ b.rank⟩

instance (a b : Severity) : Decidable (a ≤ b) := inferInstanceAs (Decidable (a.rank ≤ b.rank))

theorem le_def {a b : Severity} : a ≤ b ↔ a.rank ≤ b.rank := Iff.rfl

/-- The name on a journal line. -/
def name : Severity → String
  | .trace => "TRACE"
  | .info => "INFO"
  | .warn => "WARN"
  | .error => "ERROR"
  | .fatal => "FATAL"

/-- The severity of a name in lower case. -/
def ofLower? : String → Option Severity
  | "trace" => some .trace
  | "info" => some .info
  | "warn" => some .warn
  | "warning" => some .warn
  | "error" => some .error
  | "fatal" => some .fatal
  | _ => none

/-- The severity of a name in any case; only the letters of ASCII have a case here. -/
def parse (text : String) : Except UnknownSeverity Severity :=
  let lower := text.map Char.toLower
  match ofLower? lower with
  | some severity => .ok severity
  | none => .error ⟨lower⟩

end Severity

end ClusterConvergence
