import ClusterConvergence.Cluster.Site
import ClusterConvergence.Sharding.Item

/-!
# The routing layer

Items are submitted to the routing layer one after the other, each once, over a session that is opened
when the first one is sent.  After a command that was not answered in time a late answer may still
come over its session, so the next item gets another one.  Once the routing layer cannot be reached,
no further item is sent.
-/

namespace ClusterConvergence

/-- The way to the routing layer. -/
structure Router where
  target : Target
  /-- The session for the next command, if one is open. -/
  session : Option Session := none
  /-- Why the routing layer cannot be reached. -/
  lost : Option String := none
  deriving DecidableEq, Repr

namespace Router

open Activity

/-- Give up on the routing layer. -/
def abandon (router : Router) (reason : String) : Activity (Routed × Router) := do
  report .connectionFailed [("target", router.target.text), ("reason", reason)]
  return (.unreachable reason, { router with session := none, lost := some reason })

/-- Send a command over a session; it is kept only if there is an answer. -/
def sendOver (router : Router) (session : Session) (command : AdminCommand) :
    Activity (Routed × Router) := do
  match ← send session command with
  | .ok reply => return (.reply reply, { router with session := some session })
  | .error failure =>
    release session
    if failure.isTimeout then
      return (.timeout failure.message, { router with session := none })
    else router.abandon failure.message

/-- Send a command. -/
def run (router : Router) (command : AdminCommand) : Activity (Routed × Router) := do
  match router.lost, router.session with
  | some reason, _ => return (.unreachable reason, router)
  | none, some session => router.sendOver session command
  | none, none =>
    match ← connect router.target with
    | .ok session => router.sendOver session command
    | .error failure => router.abandon failure.message

/-- Let go of the routing layer. -/
def close (router : Router) : Activity Unit :=
  releaseAny router.session

end Router

/-- Settle what became of an item, and report it. -/
def Item.settle (item : Item) (routed : Routed) : Activity ItemOutcome := do
  let outcome := item.outcome routed
  match item.event? outcome.status with
  | some event => Activity.report event (item.fields routed)
  | none => pure ()
  return outcome

namespace Router

/-- Submit items one after the other. -/
def submit (router : Router) : List Item → Activity (List ItemOutcome × Router)
  | [] => return ([], router)
  | item :: items => do
    let (routed, router) ← router.run item.command
    let outcome ← item.settle routed
    let (outcomes, router) ← router.submit items
    return (outcome :: outcomes, router)

end Router

/-- Submit items to the routing layer at a target. -/
def submitItems (target : Target) (items : List Item) : Activity (List ItemOutcome) := do
  let (outcomes, router) ← Router.submit { target := target } items
  router.close
  return outcomes

end ClusterConvergence
