import ClusterConvergence.Admin.Failure
import ClusterConvergence.Node.Basic
import ClusterConvergence.Number.Scaled

/-!
# Targets

Where a session is opened: at one address, or at the members of a replica set, of which the primary
is wanted.  An address that has no port, or one that is no number of 16 bits, can be told without
trying it.
-/

namespace ClusterConvergence

/-- Where to connect. -/
inductive Target where
  /-- A single address. -/
  | single (address : String)
  /-- The members of a replica set in the order in which they are tried. -/
  | members (hosts : List String)
  deriving DecidableEq, Repr

namespace Target

/-- The daemon on this machine. -/
def localhost (port : UInt16) : Target :=
  .single (addressOf "localhost" port)

/-- A list of members as one text. -/
def listText (hosts : List String) : String :=
  "[" ++ ",".intercalate hosts ++ "]"

/-- The target as one text. -/
def text : Target → String
  | .single address => address
  | .members hosts => listText hosts

/-- No list of members to try. -/
def emptyList : Failure :=
  ⟨.connectionFailed, "empty replica set member list"⟩

/-- None of the listed members could be used, the last one for this reason. -/
def noMember (hosts : List String) (reason : String) : Failure :=
  ⟨.connectionFailed, "no member of " ++ listText hosts ++ " reachable: " ++ reason⟩

/-! ## Addresses that cannot be tried -/

/-- What follows the last colon, if there is one. -/
def portText? (address : List Char) : Option (List Char) :=
  if address.contains ':' then some (address.reverse.takeWhile (· != ':')).reverse else none

/-- Whether a text is a number of 16 bits, possibly behind a plus sign. -/
def isPort (text : List Char) : Bool :=
  let digits := if text.head? = some '+' then text.tail else text
  !digits.isEmpty && digits.all Char.isDigit && decide (ofDigits digits < UInt16.size)

/-- What is wrong with an address that cannot be tried. -/
def addressFault? (address : String) : Option Failure :=
  match portText? address.toList with
  | none => some ⟨.connectionFailed, address ++ ": invalid socket address"⟩
  | some port =>
    if isPort port then none else some ⟨.connectionFailed, address ++ ": invalid port value"⟩

/-- What is wrong with a target no address of which can be tried. -/
def fault? : Target → Option Failure
  | .single address => addressFault? address
  | .members hosts =>
    match hosts.mapM addressFault? with
    | none => none
    | some faults =>
      match faults.getLast? with
      | none => some emptyList
      | some last => some (noMember hosts last.message)

end Target

end ClusterConvergence
