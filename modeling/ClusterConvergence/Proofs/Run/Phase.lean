import ClusterConvergence.Proofs.ReplicaSet.Step
import ClusterConvergence.Run.Basic
import ClusterConvergence.Run.Plan

/-!
# What the parts of a run ensure

One rule for each part of a run, as there is one for each step of a convergence.  A phase writes to
the journal and otherwise ensures what its body ensures.  Nodes are discovered without touching the
cluster, so whatever is refused there is refused before the phase acts.
-/

namespace ClusterConvergence

open Activity

/-- The number of config servers, if the routing layer can work with it. -/
def checkedCount (settings : Settings) (answers : Answers) (place : Nat) :
    Except RunError Nat := do
  let nodes ← answers place settings.configServerQuery
  if isConfigServerCount nodes.length then return nodes.length
  else throw (.configServerCount nodes.length)

/-- What comes of the count does not depend on the journal. -/
theorem countConfigServers_fst (settings : Settings) (answers : Answers) (place : Nat)
    (journal : Journal) :
    (countConfigServers settings answers place journal).1 =
      checkedCount settings answers place := by
  rw [countConfigServers, checkedCount]
  rcases answers place settings.configServerQuery with cause | nodes
  · rfl
  · by_cases hcount : isConfigServerCount nodes.length = true
    · simp [hcount, bind, Except.bind, pure, Except.pure]
    · simp [hcount, bind, Except.bind, throw, throwThe, MonadExceptOf.throw]

namespace Run

variable {α : Type} {cluster : Cluster} {settings : Settings} {answers : Answers} {place : Nat}
  {halt : Abort → Cluster → Prop}

section Parts

variable {post : α → Cluster → Prop}

theorem ensures_orStop {x : Except RunError α} (hok : ∀ a, x = .ok a → post a cluster)
    (herror : ∀ cause, x = .error cause → halt (.error cause) cluster) :
    Ensures cluster (orStop x) post halt := by
  rcases x with cause | a
  · exact Ensures.throw (herror cause rfl)
  · exact Ensures.pure (hok a rfl)

/-- A phase ensures what its body does. -/
theorem ensures_inPhase {name : String} {close : α → Phase → Journal → Journal} {body : Part α}
    (h : Ensures cluster body post halt) : Ensures cluster (inPhase name close body) post halt := by
  refine Yields.bind (Yields.onJournal fun _ => Yields.bind (Yields.mono h ?_))
  intro result c h
  exact Yields.bind (Yields.onJournal fun _ => Yields.pure h)

theorem ensures_discover {query : Query} {what : String} {post : List Node → Cluster → Prop}
    (hok : ∀ nodes, answers place query = .ok nodes → post nodes cluster)
    (herror : ∀ cause, answers place query = .error cause → halt (.error cause) cluster) :
    Ensures cluster (discover answers place query what) post halt := by
  refine Ensures.bind (ensures_orStop (fun nodes hnodes => ?_) herror)
  exact Ensures.bind (Ensures.lift (Yields.report (Ensures.pure (hok nodes hnodes))))

end Parts

/-! ## The three phases -/

theorem ensures_convergeOwn {post : Option ReplicaSetReport → Cluster → Prop}
    (hnone : settings.replicaSet = none → post none cluster)
    (hrefused : ∀ name, settings.replicaSet = some name →
      ∀ cause, answers place settings.replicaSetQuery = .error cause →
        halt (.error cause) cluster)
    (hsome : ∀ name, settings.replicaSet = some name →
      ∀ candidates, answers place settings.replicaSetQuery = .ok candidates →
        Ensures cluster (convergeReplicaSet settings.port settings.solo name candidates)
          (fun outcome c => post (some ⟨name, outcome⟩) c) halt) :
    Ensures cluster (convergeOwn settings answers place) post halt := by
  rw [convergeOwn]
  rcases hname : settings.replicaSet with - | name
  · exact Ensures.pure (hnone hname)
  · refine Ensures.bind (ensures_inPhase (Ensures.bind (ensures_discover ?_ (hrefused name hname))))
    intro candidates hcandidates
    refine (hsome name hname candidates hcandidates).mono ?_ fun _ _ h => h
    exact fun _ _ h => Ensures.pure h

theorem ensures_shardsPhase {post : List ItemOutcome → Cluster → Prop}
    (hok : ∀ nodes, answers place settings.shardQuery = .ok nodes →
      Yields cluster (registerShards (.localhost settings.port) nodes) post)
    (hrefused : ∀ cause, answers place settings.shardQuery = .error cause →
      halt (.error cause) cluster) :
    Ensures cluster (shardsPhase settings answers place) post halt := by
  refine ensures_inPhase (Ensures.bind (ensures_discover (fun nodes hnodes => ?_) hrefused))
  exact Ensures.lift (hok nodes hnodes)

/-- Collections that were checked before are not refused when they are checked again. -/
theorem ensures_collectionsPhase {collections : List ShardedCollection}
    {post : List ItemOutcome → Cluster → Prop}
    (hcollections : ShardedCollection.parseAll settings.collections = .ok collections)
    (h : Yields cluster (submitItems (.localhost settings.port) (shardingItems collections)) post) :
    Ensures cluster (collectionsPhase settings) post halt := by
  refine ensures_inPhase (Ensures.bind (Ensures.lift ?_))
  have hsharded : Ensures cluster
      (shardCollections (.localhost settings.port) settings.collections) post fun _ _ => False := by
    rw [shardCollections, hcollections]
    exact Ensures.bind (Ensures.pure (Ensures.lift h))
  refine Yields.mono hsharded ?_
  -- nothing else stops the phase
  rintro (cause | outcomes) c h
  · exact absurd h id
  · exact Ensures.pure h

/-! ## All of them -/

section Whole

variable {runId : String} {post : Report → Cluster → Prop}

/-- Without the routing layer, all that there is to do is to converge the replica set. -/
theorem ensures_phases_of_other (hother : settings.daemon.isRouter = false)
    (hcollections : ∀ cause, ShardedCollection.parseAll settings.collections = .error cause →
      halt (.error cause) cluster)
    (h : ∀ collections, ShardedCollection.parseAll settings.collections = .ok collections →
      Ensures cluster (convergeOwn settings answers 0)
        (fun replicaSet c =>
          post ⟨runId, settings.nodeName, settings.daemon, replicaSet, [], []⟩ c) halt) :
    Ensures cluster (phases runId settings answers) post halt := by
  rw [phases, hother]
  refine Ensures.bind (ensures_orStop (fun collections hparsed => ?_) hcollections)
  refine Ensures.bind ((h collections hparsed).mono ?_ fun _ _ h => h)
  exact fun _ _ h => Ensures.pure h

/-- On the routing layer the config servers are counted first, and the shards and the collections
come after the replica set. -/
theorem ensures_phases_of_router (hrouter : settings.daemon.isRouter = true)
    (hcollections : ∀ cause, ShardedCollection.parseAll settings.collections = .error cause →
      halt (.error cause) cluster)
    (hcount : ∀ collections cause,
      ShardedCollection.parseAll settings.collections = .ok collections →
      checkedCount settings answers 0 = .error cause → halt (.error cause) cluster)
    (h : ∀ collections count, ShardedCollection.parseAll settings.collections = .ok collections →
      checkedCount settings answers 0 = .ok count →
      Ensures cluster (convergeOwn settings answers 1)
        (fun replicaSet c =>
          Ensures c (shardsPhase settings answers (if settings.replicaSet.isSome then 2 else 1))
            (fun shards c =>
              Ensures c (if collections.isEmpty then pure [] else collectionsPhase settings)
                (fun sharding c =>
                  post ⟨runId, settings.nodeName, settings.daemon, replicaSet, shards, sharding⟩ c)
                halt) halt) halt) :
    Ensures cluster (phases runId settings answers) post halt := by
  rw [phases, hrouter]
  refine Ensures.bind (ensures_orStop (fun collections hparsed => ?_) hcollections)
  refine Ensures.bind (Ensures.lift (Yields.onJournal fun journal => ?_))
  rw [countConfigServers_fst]
  refine Ensures.bind (ensures_orStop (fun count hcounted => ?_)
    fun cause => hcount collections cause hparsed)
  refine Ensures.bind ((h collections count hparsed hcounted).mono ?_ fun _ _ h => h)
  intro replicaSet c h
  refine Ensures.bind (h.mono ?_ fun _ _ h => h)
  intro shards c h
  -- with and without collections, the report comes last
  cases hempty : collections.isEmpty <;> rw [hempty] at h <;>
    exact Ensures.bind (Ensures.mono h (fun _ _ h => Ensures.pure h) fun _ _ h => h)

end Whole

/-- A run begins and ends on the journal. -/
theorem ensures_execute {runId : String} {post : Report → Cluster → Prop}
    (h : Ensures cluster (phases runId settings answers) post halt) :
    Ensures cluster (ExceptT.mk (executeWith runId settings answers)) post halt := by
  refine Yields.bind (Yields.onJournal fun _ => Yields.bind (Yields.report ?_))
  refine Yields.bind (Yields.mono h ?_)
  rintro ((cause | -) | outcome) c h
  · exact Yields.bind (Yields.bind (Yields.report (Yields.onJournal fun _ => Yields.pure h)))
  · exact Yields.bind (Yields.pure (Yields.pure h))
  · exact Yields.bind (Yields.bind (Yields.report (Yields.onJournal fun _ => Yields.pure h)))

end Run

end ClusterConvergence
