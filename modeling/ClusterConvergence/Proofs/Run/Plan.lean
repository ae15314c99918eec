import ClusterConvergence.Proofs.Run.Phase

/-!
# Plans from discovery alone

Making a plan reports a number of config servers with which the routing layer cannot work.  Apart
from that it has nothing to do with the journal: a plan, or what stops it, is a function of the
settings and of what discovery answers (`Plan.makeWith_fst`).
-/

namespace ClusterConvergence

namespace Plan

variable {α β : Type} {settings : Settings} {answers : Answers}

/-- A step that is refused is the last one; its reports stay. -/
theorem run_bind (x : Making α) (f : α → Making β) (journal : Journal) :
    (x >>= f).run.run journal =
      match x.run.run journal with
      | (.ok a, journal) => (f a).run.run journal
      | (.error cause, journal) => (.error cause, journal) := by
  show (ExceptT.bindCont f (x.run.run journal).1).run (x.run.run journal).2 = _
  rcases x.run.run journal with ⟨cause | a, journal'⟩
  · rfl
  · rfl

/-- What concerns the routing layer, without the reports. -/
def routing (settings : Settings) (answers : Answers) (place : Nat)
    (collections : List ShardedCollection) (plan : Plan) : Except RunError Plan := do
  let count ← checkedCount settings answers place
  let nodes ← answers (place + 1) settings.shardQuery
  return { plan with
    configServers := some count
    shards := (ShardSpec.ofNodes nodes).map ShardSpec.text
    databases := ShardedCollection.databases collections
    collections := collections }

theorem addRouting_fst (place : Nat) (collections : List ShardedCollection) (plan : Plan)
    (journal : Journal) :
    ((plan.addRouting settings answers place collections).run.run journal).1 =
      routing settings answers place collections plan := by
  have hcounting : (ExceptT.mk (countConfigServers settings answers place) :
      Making Nat).run.run journal = countConfigServers settings answers place journal := rfl
  rw [addRouting, routing, run_bind, hcounting,
    ← countConfigServers_fst settings answers place journal]
  rcases countConfigServers settings answers place journal with ⟨cause | count, journal'⟩
  · rfl
  · dsimp only
    rcases answers (place + 1) settings.shardQuery with cause | nodes
    · rfl
    · rfl

/-- A plan, without the reports. -/
def ofAnswers (settings : Settings) (answers : Answers) : Except RunError Plan := do
  let collections ← ShardedCollection.parseAll settings.collections
  let replicaSet ← replicaSetOf settings answers
  let plan : Plan :=
    { nodeName := settings.nodeName, daemon := settings.daemon, replicaSet := replicaSet }
  if settings.daemon.isRouter then
    routing settings answers (if settings.replicaSet.isSome then 1 else 0) collections plan
  else return plan

theorem makeWith_fst (settings : Settings) (answers : Answers) (journal : Journal) :
    ((makeWith settings answers).run.run journal).1 = ofAnswers settings answers := by
  rw [makeWith, ofAnswers]
  rcases ShardedCollection.parseAll settings.collections with cause | collections
  · rfl
  · rcases replicaSetOf settings answers with cause | replicaSet
    · rfl
    · cases settings.daemon.isRouter with
      | false => rfl
      | true => exact addRouting_fst _ _ _ _

theorem make_fst (settings : Settings) (discovery : Discovery) (journal : Journal) :
    ((make settings discovery).run.run journal).1 = ofAnswers settings discovery.list :=
  makeWith_fst settings discovery.list journal

end Plan

end ClusterConvergence
