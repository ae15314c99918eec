/-!
# Failures of a connection

What can go wrong between a run and the cluster.  A failure never stops a run; it becomes an outcome.
-/

namespace ClusterConvergence

/-- The kind of a failure. -/
inductive FailureKind where
  /-- The target cannot be reached, or the connection was lost during a command. -/
  | connectionFailed
  /-- There was no answer in time. -/
  | timeout
  /-- What came back is no answer. -/
  | protocol
  deriving DecidableEq, Repr

namespace FailureKind

/-- The name of the kind. -/
def name : FailureKind → String
  | .connectionFailed => "ConnectionFailed"
  | .timeout => "OperationTimeout"
  | .protocol => "Protocol"

end FailureKind

/-- What the operating system reported. -/
inductive IoCause where
  | timedOut
  | wouldBlock
  | invalidData
  /-- Any other cause. -/
  | other
  deriving DecidableEq, Repr

/-- A failure of a connection. -/
structure Failure where
  kind : FailureKind
  message : String
  deriving DecidableEq, Repr

namespace Failure

/-- The failure that belongs to a report of the operating system. -/
def ofIo (address : String) (cause : IoCause) (report : String) : Failure where
  kind :=
    match cause with
    | .timedOut | .wouldBlock => .timeout
    | .invalidData => .protocol
    | .other => .connectionFailed
  message := address ++ ": " ++ report

/-- Whether there was no answer in time. -/
def isTimeout (failure : Failure) : Bool :=
  failure.kind = .timeout

/-- Whether there was no connection, or it was lost. -/
def isConnectionFailure (failure : Failure) : Bool :=
  failure.kind = .connectionFailed

/-- The failure as one text. -/
def text (failure : Failure) : String :=
  "ConnectorError(" ++ failure.kind.name ++ "): " ++ failure.message

end Failure

end ClusterConvergence
