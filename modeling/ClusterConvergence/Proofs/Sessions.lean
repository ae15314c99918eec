import ClusterConvergence.Proofs.Run.Phase
import ClusterConvergence.Proofs.Sharding.Routing

/-!
# Sessions are given back

A session is held while something is asked over it.  A search holds the session at the first member
that answered while it tries the others, and the router holds its session from one item to the next.
What is open at any time is therefore what was open in the beginning and what is held just now, and
each rule of this file says so of one step.

When an activity is over, nothing is held any more.  Main statement: `no_session_is_leaked`.
-/

namespace ClusterConvergence

/-- How many sessions are held. -/
def held : Option Session → Nat
  | none => 0
  | some _ => 1

namespace Cluster

@[simp] theorem run_openSessions (cluster : Cluster) (session : Session) (command : AdminCommand) :
    (cluster.run session command).2.openSessions = cluster.openSessions := by
  obtain ⟨_, _, _, _, h⟩ := cluster.run_frame session command
  rw [h]
  rfl

/-- A session is open from when it was opened. -/
theorem openSession_openSessions (cluster : Cluster) (address : String) :
    (cluster.openSession address).2.openSessions =
      cluster.openSessions + held (cluster.openSession address).1.toOption := by
  rw [openSession]
  split <;> rfl

end Cluster

open Activity

variable {cluster : Cluster} {session : Session} {name : String} {n : Nat}

/-! ## Looking for a session -/

namespace Activity

theorem releaseAny_sessions {session : Option Session}
    (h : cluster.openSessions = n + held session) :
    Yields cluster (releaseAny session) fun _ after => after.openSessions = n := by
  cases session with
  | none => exact Yields.pure h
  | some session =>
    show Yields cluster (release session) _
    exact Yields.release (congrArg (· - 1) h)

/-- A search holds the session at the first member that answered, until it has found the primary. -/
theorem tryMembers_sessions (hosts : List String) (search : Search)
    (h : cluster.openSessions = n + held search.fallback) :
    Yields cluster (tryMembers search hosts) fun result after =>
      match result with
      | .ok _ => after.openSessions = n + 1
      | .error left => after.openSessions = n + held left.fallback := by
  induction hosts generalizing search cluster with
  | nil => exact Yields.pure h
  | cons host hosts ih =>
    rw [tryMembers]
    refine Yields.bind (Yields.openSession ?_)
    have hopened := cluster.openSession_openSessions host
    rw [h] at hopened
    rcases hsession : (cluster.openSession host).1 with failure | session <;>
      rw [hsession] at hopened
    · exact Yields.bind (Yields.trace (ih _ hopened))
    · refine Yields.bind (Yields.send ?_)
      have hsent : ((cluster.openSession host).2.run session .hello).2.openSessions =
          n + held search.fallback + 1 := (Cluster.run_openSessions _ _ _).trans hopened
      rcases ((cluster.openSession host).2.run session .hello).1 with failure | reply
      · exact Yields.bind (Yields.release (ih _ (congrArg (· - 1) hsent)))
      · dsimp only
        split
        · -- the primary takes the place of whoever answered first
          rw [Nat.add_right_comm] at hsent
          exact Yields.bind ((releaseAny_sessions hsent).mono fun _ _ h => Yields.pure h)
        · split
          · -- whoever answers first is kept in place of the primary
            next hnone =>
            rw [hnone] at hsent
            exact ih _ hsent
          · exact Yields.bind (Yields.release (ih _ (congrArg (· - 1) hsent)))

theorem connectMembers_sessions (hosts : List String) :
    Yields cluster (connectMembers hosts) fun result after =>
      after.openSessions = cluster.openSessions + held result.toOption := by
  have hsettle : ∀ left : Search, held (settle hosts left).toOption = held left.fallback := by
    intro left
    rw [settle]
    split
    · next hsome => rw [hsome]; rfl
    · next hnone => rw [hnone]; rfl
  rw [connectMembers]
  split
  · exact Yields.pure rfl
  · refine Yields.bind ((tryMembers_sessions hosts {} rfl).mono ?_)
    rintro (left | session) c h
    · dsimp only at h ⊢
      split
      · exact Yields.pure (h.trans (congrArg _ (hsettle left).symm))
      · next primary _ =>
        refine Yields.bind (Yields.openSession ?_)
        have hopened := c.openSession_openSessions primary
        rw [h] at hopened
        split
        · next session hsession =>
          rw [hsession, Nat.add_right_comm] at hopened
          exact Yields.bind ((releaseAny_sessions hopened).mono fun _ _ h => Yields.pure h)
        · next failure hrefused =>
          rw [hrefused] at hopened
          exact Yields.pure (hopened.trans (congrArg _ (hsettle left).symm))
    · exact Yields.pure h

/-- Looking for a session opens the one that is found, and leaves no other one open. -/
theorem connect_sessions (target : Target) :
    Yields cluster (connect target) fun result after =>
      after.openSessions = cluster.openSessions + held result.toOption := by
  cases target with
  | single address => exact Yields.openSession (cluster.openSession_openSessions address)
  | members hosts => exact connectMembers_sessions hosts

end Activity

/-! ## Converging a replica set -/

namespace Step

variable {live next : ReplicaConfig} {action : ReplicaSetAction} {port : UInt16}
  {desired : DesiredMembers}

/-- A session that could be opened is held by what comes next. -/
theorem openAt_sessions (target : Target) :
    Ensures cluster (openAt target) (fun _ c => c.openSessions = cluster.openSessions + 1)
      fun _ c => c.openSessions = cluster.openSessions := by
  refine ensures_openAt ((connect_sessions target).mono ?_)
  rintro (failure | session) c h <;> exact h

theorem fetch_sessions :
    Ensures cluster (fetch session name) (fun _ c => c.openSessions = cluster.openSessions)
      fun _ c => c.openSessions = cluster.openSessions :=
  ensures_fetch (fun _ _ _ _ => cluster.run_openSessions _ _)
    (fun _ _ _ _ => cluster.run_openSessions _ _) fun _ _ => cluster.run_openSessions _ _

theorem initiateOrFetch_sessions {members : List Member} :
    Ensures cluster (initiateOrFetch session name members)
      (fun _ c => c.openSessions = cluster.openSessions)
      fun _ c => c.openSessions = cluster.openSessions := by
  have hsame := cluster.run_openSessions session (.initiate (.initial name members))
  refine ensures_initiateOrFetch ?_ ?_ ?_ ?_
  · exact fun _ _ _ => hsame
  · intro reply _ _
    exact fetch_sessions.mono (fun _ _ h => h.trans hsame) fun _ _ h => h.trans hsame
  · exact fun _ _ _ _ => hsame
  · exact fun _ _ => hsame

theorem submit_sessions :
    Ensures cluster (submit session next action)
      (fun _ c => c.openSessions = cluster.openSessions)
      fun _ c => c.openSessions = cluster.openSessions := by
  have hsame := cluster.run_openSessions session (.reconfig next)
  exact ensures_submit (fun _ _ _ => hsame) (fun _ _ _ => hsame) (fun _ _ _ => hsame)
    fun _ _ _ => hsame

theorem verify_sessions {lost : Failure} :
    Ensures cluster (verify port next action lost)
      (fun _ c => c.openSessions = cluster.openSessions)
      fun _ c => c.openSessions = cluster.openSessions := by
  refine ensures_verify ((connect_sessions (.localhost port)).mono ?_)
  rintro (failure | session) c h
  · exact fun _ => h
  · have hread := (c.run_openSessions session (.getConfig next.id)).trans h
    exact ensures_readBack (fun _ _ _ _ _ _ => congrArg (· - 1) hread)
      fun _ _ => congrArg (· - 1) hread

theorem reconfigure_sessions (hnext : next.isSuccessorOf live = .ok true) :
    Ensures cluster (reconfigure port live next action)
      (fun _ c => c.openSessions = cluster.openSessions)
      fun _ c => c.openSessions = cluster.openSessions := by
  refine ensures_reconfigure hnext ((openAt_sessions _).mono ?_ fun _ _ h => h)
  intro session opened hopened
  have hreleased : ∀ c : Cluster, c.openSessions = opened.openSessions →
      c.release.openSessions = cluster.openSessions :=
    fun c h => congrArg (· - 1) (h.trans hopened)
  refine submit_sessions.mono ?_ fun _ c h => hreleased c h
  rintro (lost | outcome) c h
  · exact verify_sessions.mono (fun _ _ hread => hread.trans (hreleased c h))
      fun _ _ hread => hread.trans (hreleased c h)
  · exact hreleased c h

theorem adjust_sessions :
    Ensures cluster (adjust port name desired live)
      (fun _ c => c.openSessions = cluster.openSessions)
      fun _ c => c.openSessions = cluster.openSessions :=
  ensures_adjust (fun _ => rfl)
    (fun _ _ hsend => reconfigure_sessions (DesiredMembers.isSuccessorOf_of_send hsend).2.2)
    fun _ _ => rfl

theorem converge_sessions :
    Ensures cluster (converge port name desired)
      (fun _ c => c.openSessions = cluster.openSessions)
      fun _ c => c.openSessions = cluster.openSessions := by
  refine ensures_converge ((openAt_sessions _).mono ?_ fun _ _ h => h)
  intro session opened hopened
  have hreleased : ∀ c : Cluster, c.openSessions = opened.openSessions →
      c.release.openSessions = cluster.openSessions :=
    fun c h => congrArg (· - 1) (h.trans hopened)
  refine initiateOrFetch_sessions.mono ?_ fun _ c h => hreleased c h
  rintro (- | live) c h
  · exact hreleased c h
  · exact adjust_sessions.mono (fun _ _ hkept => hkept.trans (hreleased c h))
      fun _ _ hkept => hkept.trans (hreleased c h)

end Step

theorem convergeReplicaSet_sessions {port : UInt16} {solo : Bool} (candidates : List Node) :
    Ensures cluster (convergeReplicaSet port solo name candidates)
      (fun _ c => c.openSessions = cluster.openSessions)
      fun _ c => c.openSessions = cluster.openSessions := by
  by_cases hcandidates : candidates = []
  · subst hcandidates
    exact ensures_convergeReplicaSet_nil (fun _ => rfl) fun _ => rfl
  · refine ensures_convergeReplicaSet hcandidates (Step.converge_sessions.mono (fun _ _ h => h) ?_)
    rintro (outcome | -) c h <;> exact h

theorem liveConfig_sessions {port : UInt16} :
    Yields cluster (liveConfig port name) fun _ after =>
      after.openSessions = cluster.openSessions := by
  refine Yields.bind ((connect_sessions (.localhost port)).mono ?_)
  rintro (failure | session) c h
  · exact Yields.pure h
  · refine Yields.bind (Yields.send (Yields.bind (Yields.release (Yields.pure ?_))))
    exact congrArg (· - 1) ((c.run_openSessions session (.getConfig name)).trans h)

/-! ## The routing layer -/

namespace Router

theorem sendOver_sessions (router : Router) (command : AdminCommand)
    (h : cluster.openSessions = n + 1) :
    Yields cluster (router.sendOver session command) fun result after =>
      after.openSessions = n + held result.2.session := by
  refine Yields.bind (Yields.send ?_)
  have hsent := (cluster.run_openSessions session command).trans h
  rcases (cluster.run session command).1 with failure | reply
  · refine Yields.bind (Yields.release ?_)
    have hreleased := congrArg (· - 1) hsent
    split
    · exact Yields.pure hreleased
    · exact Yields.bind (Yields.report (Yields.pure hreleased))
  · exact Yields.pure hsent

/-- The router holds the session for the next command, if one is open. -/
theorem run_sessions (router : Router) (command : AdminCommand)
    (h : cluster.openSessions = n + held router.session) :
    Yields cluster (router.run command) fun result after =>
      after.openSessions = n + held result.2.session := by
  rw [run]
  split
  · exact Yields.pure h
  · next session _ hsession =>
    rw [hsession] at h
    exact sendOver_sessions router command h
  · next _ hnone =>
    rw [hnone] at h
    refine Yields.bind ((connect_sessions router.target).mono ?_)
    rintro (failure | session) c hopened <;> rw [h] at hopened
    · exact Yields.bind (Yields.report (Yields.pure hopened))
    · exact sendOver_sessions router command hopened

theorem submit_sessions (items : List Item) (router : Router)
    (h : cluster.openSessions = n + held router.session) :
    Yields cluster (router.submit items) fun result after =>
      after.openSessions = n + held result.2.session := by
  induction items generalizing router cluster with
  | nil => exact Yields.pure h
  | cons item items ih =>
    refine Yields.bind ((run_sessions router item.command h).mono ?_)
    rintro ⟨routed, next⟩ between hheld
    refine Yields.bind ((yields_settle item routed).mono ?_)
    rintro outcome c ⟨-, rfl⟩
    exact Yields.bind ((ih next hheld).mono fun _ _ h => Yields.pure h)

end Router

theorem submitItems_sessions (target : Target) (items : List Item) :
    Yields cluster (submitItems target items) fun _ after =>
      after.openSessions = cluster.openSessions := by
  refine Yields.bind ((Router.submit_sessions items { target := target } rfl).mono ?_)
  rintro ⟨outcomes, router⟩ c h
  exact Yields.bind ((releaseAny_sessions h).mono fun _ _ h => Yields.pure h)

theorem registerShards_sessions (target : Target) (nodes : List Node) :
    Yields cluster (registerShards target nodes) fun _ after =>
      after.openSessions = cluster.openSessions :=
  Yields.bind (Yields.report (submitItems_sessions target _))

theorem shardCollections_sessions (target : Target) (collections : Dict String) :
    Ensures cluster (shardCollections target collections)
      (fun _ c => c.openSessions = cluster.openSessions)
      fun _ c => c.openSessions = cluster.openSessions := by
  rw [shardCollections]
  rcases ShardedCollection.parseAll collections with cause | parsed
  · exact Ensures.bind (Ensures.throw rfl)
  · exact Ensures.bind (Ensures.pure (Ensures.lift (submitItems_sessions target _)))

/-! ## Whole runs -/

namespace Run

variable {settings : Settings} {answers : Answers} {place : Nat}

theorem convergeOwn_sessions (h : cluster.openSessions = n) :
    Ensures cluster (convergeOwn settings answers place) (fun _ c => c.openSessions = n)
      fun _ c => c.openSessions = n := by
  subst h
  exact ensures_convergeOwn (fun _ => rfl) (fun _ _ _ _ => rfl)
    fun _ _ candidates _ => convergeReplicaSet_sessions candidates

theorem shardsPhase_sessions (h : cluster.openSessions = n) :
    Ensures cluster (shardsPhase settings answers place) (fun _ c => c.openSessions = n)
      fun _ c => c.openSessions = n := by
  subst h
  exact ensures_shardsPhase (fun nodes _ => registerShards_sessions _ nodes) fun _ _ => rfl

theorem execute_sessions {runId : String} :
    Ensures cluster (ExceptT.mk (executeWith runId settings answers))
      (fun _ c => c.openSessions = cluster.openSessions)
      fun _ c => c.openSessions = cluster.openSessions := by
  refine ensures_execute ?_
  cases hrouter : settings.daemon.isRouter with
  | false =>
    exact ensures_phases_of_other hrouter (fun _ _ => rfl) fun _ _ => convergeOwn_sessions rfl
  | true =>
    refine ensures_phases_of_router hrouter (fun _ _ => rfl) (fun _ _ _ _ => rfl) ?_
    intro collections count hparsed _
    refine (convergeOwn_sessions rfl).mono (fun _ c hown => ?_) fun _ _ h => h
    refine (shardsPhase_sessions hown).mono (fun _ d hshards => ?_) fun _ _ h => h
    split
    · exact Ensures.pure hshards
    · refine ensures_collectionsPhase hparsed ((submitItems_sessions _ _).mono fun _ _ h => ?_)
      exact h.trans hshards

end Run

/-- Whatever was asked of a cluster and whatever came of it, as many sessions are open afterwards as
before. -/
theorem no_session_is_leaked (site : Site) :
    (∀ port solo name candidates,
      ((convergeReplicaSet port solo name candidates).run.run site).2.cluster.openSessions =
        site.cluster.openSessions) ∧
    (∀ port name,
      ((liveConfig port name).run site).2.cluster.openSessions = site.cluster.openSessions) ∧
    (∀ target nodes,
      ((registerShards target nodes).run site).2.cluster.openSessions =
        site.cluster.openSessions) ∧
    (∀ target collections,
      ((shardCollections target collections).run.run site).2.cluster.openSessions =
        site.cluster.openSessions) ∧
    ∀ runId settings answers,
      ((Run.executeWith runId settings answers).run site).2.cluster.openSessions =
        site.cluster.openSessions := by
  refine ⟨?_, ?_, ?_, ?_, ?_⟩
  · intro port solo name candidates
    exact (convergeReplicaSet_sessions candidates).leaves
  · intro port name
    exact liveConfig_sessions.of_run
  · intro target nodes
    exact (registerShards_sessions target nodes).of_run
  · intro target collections
    exact (shardCollections_sessions target collections).leaves
  · intro runId settings answers
    exact Run.execute_sessions.leaves

end ClusterConvergence
