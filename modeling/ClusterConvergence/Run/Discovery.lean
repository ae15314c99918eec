import ClusterConvergence.Run.Settings
import ClusterConvergence.Journal.Basic

/-!
# Discovery

Where candidate nodes come from.  A run works with whoever answers its queries: `Answers`.  An
inventory is a list of nodes that answers queries in the order in which they are asked; one of the
queries may be refused.

The routing layer needs one or three config servers; `countConfigServers` makes sure of that.
-/

namespace ClusterConvergence

/-- How queries for nodes are answered, `place` queries having been asked before. -/
abbrev Answers : Type := (place : Nat) → Query → Except RunError (List Node)

/-- A source of nodes. -/
structure Discovery where
  nodes : List Node
  /-- The query that is refused, counted from 0. -/
  refusedQuery : Option Nat := none
  deriving DecidableEq, Repr

namespace Discovery

/-- The answer to a query, `place` queries having been asked before it. -/
def list (discovery : Discovery) (place : Nat) (query : Query) : Except RunError (List Node) :=
  if discovery.refusedQuery = some place then
    .error (.discovery ("query " ++ toString place ++ " refused"))
  else .ok (discovery.nodes.filter query.accepts)

end Discovery

/-- Whether the routing layer can work with a number of config servers. -/
def isConfigServerCount (count : Nat) : Bool :=
  count == 1 || count == 3

/-- Count the config servers; a number with which the routing layer cannot work is reported. -/
def countConfigServers (settings : Settings) (answers : Answers) (place : Nat)
    (journal : Journal) : Except RunError Nat × Journal :=
  match answers place settings.configServerQuery with
  | .error cause => (.error cause, journal)
  | .ok nodes =>
    let count := nodes.length
    if isConfigServerCount count then (.ok count, journal)
    else
      (.error (.configServerCount count),
        journal.report .configServerCountInvalid [("found", toString count)])

end ClusterConvergence
