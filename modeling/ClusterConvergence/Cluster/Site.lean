import ClusterConvergence.Admin.Target
import ClusterConvergence.Cluster.Session
import ClusterConvergence.Journal.Basic

/-!
# The site of a run

What a run acts on: the cluster and the journal.  The activities of a run are computations over this
state, built from the few steps of this file.

A list of members is tried in its order until one of them says that it is the primary.  If none does,
the session is opened at the primary that the members told of, and if that cannot be done, it is the
one at the first member that answered.
-/

namespace ClusterConvergence

/-- The cluster and the journal. -/
structure Site where
  cluster : Cluster := {}
  journal : Journal := {}

/-- An activity at a site. -/
abbrev Activity (α : Type) : Type := StateM Site α

namespace Activity

/-- Report an event. -/
def report (event : Event) (fields : Fields) : Activity Unit :=
  modify fun site => { site with journal := site.journal.report event fields }

/-- Add a line of detail. -/
def trace (event : String) (fields : Fields) : Activity Unit :=
  modify fun site => { site with journal := site.journal.log .trace event fields }

/-- Change the journal. -/
def onJournal {α : Type} (step : Journal → α × Journal) : Activity α := fun site =>
  let (a, journal) := step site.journal
  (a, { site with journal := journal })

/-- Act on the cluster. -/
def onCluster {α : Type} (step : Cluster → α × Cluster) : Activity α := fun site =>
  let (a, cluster) := step site.cluster
  (a, { site with cluster := cluster })

/-- Open a session at an address. -/
def openSession (address : String) : Activity (Except Failure Session) :=
  onCluster (·.openSession address)

/-- Send a command over a session. -/
def send (session : Session) (command : AdminCommand) : Activity (Except Failure Reply) :=
  onCluster (·.run session command)

/-- Give a session back. -/
def release (_ : Session) : Activity Unit :=
  onCluster fun cluster => ((), cluster.release)

/-- Give a session back if there is one. -/
def releaseAny : Option Session → Activity Unit
  | none => return ()
  | some session => release session

/-! ## Lists of members -/

/-- What was learned from the members that were tried. -/
structure Search where
  /-- The session at the first member that answered. -/
  fallback : Option Session := none
  /-- The primary that was told of first. -/
  primary : Option String := none
  /-- Why the last member that failed did so. -/
  failure : Option Failure := none
  deriving DecidableEq, Repr

/-- Try members in turn: the session at the first one that is the primary, or what was learned. -/
def tryMembers (search : Search) : List String → Activity (Except Search Session)
  | [] => return .error search
  | host :: hosts => do
    match ← openSession host with
    | .error failure =>
      trace "MEMBER_UNREACHABLE" [("host", host), ("reason", failure.message)]
      tryMembers { search with failure := some failure } hosts
    | .ok session =>
      match ← send session .hello with
      | .error failure =>
        release session
        tryMembers { search with failure := some failure } hosts
      | .ok reply =>
        if reply.isWritablePrimary = some true then
          releaseAny search.fallback
          return .ok session
        else
          let primary := search.primary.or reply.primary
          match search.fallback with
          | none => tryMembers { search with fallback := some session, primary := primary } hosts
          | some _ =>
            release session
            tryMembers { search with primary := primary } hosts

/-- The session at the first member that answered, if any did. -/
def settle (hosts : List String) (search : Search) : Except Failure Session :=
  match search.fallback with
  | some session => .ok session
  | none =>
    .error (Target.noMember hosts
      ((search.failure.map (·.message)).getD "no reachable member"))

/-- Open a session at the members of a replica set. -/
def connectMembers (hosts : List String) : Activity (Except Failure Session) := do
  if hosts.isEmpty then return .error Target.emptyList
  match ← tryMembers {} hosts with
  | .ok session => return .ok session
  | .error search =>
    match search.primary with
    | none => return settle hosts search
    | some primary =>
      match ← openSession primary with
      | .ok session =>
        releaseAny search.fallback
        return .ok session
      | .error _ => return settle hosts search

/-- Open a session at a target. -/
def connect : Target → Activity (Except Failure Session)
  | .single address => openSession address
  | .members hosts => connectMembers hosts

end Activity

end ClusterConvergence
