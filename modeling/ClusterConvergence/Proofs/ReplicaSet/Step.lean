import ClusterConvergence.Proofs.Activity
import ClusterConvergence.Proofs.ReplicaSet.Remedy

/-!
# What the steps of a convergence ensure

One rule for each step: what has to hold of every way in which the step can end.  The rules keep the
replies as they are and ask nothing of the cluster, so they serve a run that faults interfere with
as well as one that nothing interferes with.
-/

namespace ClusterConvergence

/-- The outcome when there is no answer. -/
def ReplicaSetOutcome.ofFailure (target : String) (failure : Failure) : ReplicaSetOutcome :=
  if failure.isTimeout then .pendingConvergence failure.message
  else .connectionFailed target failure.message

namespace Step

open Activity

variable {α : Type} {cluster : Cluster} {session : Session} {name : String}
  {halt : Halt → Cluster → Prop}

section Ends

variable {post : α → Cluster → Prop}

theorem ensures_settle {outcome : ReplicaSetOutcome} (h : halt (.settled outcome) cluster) :
    Ensures cluster (settle outcome : Step α) post halt :=
  Ensures.throw h

theorem ensures_fail {reason : String} (h : halt (.settled (.failed reason)) cluster) :
    Ensures cluster (fail reason : Step α) post halt :=
  ensures_settle h

theorem ensures_unreachable {target reason : String}
    (h : halt (.settled (.connectionFailed target reason)) cluster) :
    Ensures cluster (unreachable target reason : Step α) post halt :=
  Ensures.bind (Ensures.lift (Yields.report (ensures_settle h)))

theorem ensures_unverified {lost : Failure} {detail : String}
    (h : ∀ reason, halt (.settled (.failed reason)) cluster) :
    Ensures cluster (unverified lost detail : Step α) post halt :=
  ensures_fail (h _)

theorem ensures_fitting {x : Except Overflow α} (hok : ∀ a, x = .ok a → post a cluster)
    (herror : x = .error ⟨⟩ → halt .overflow cluster) :
    Ensures cluster (fitting x) post halt := by
  rcases x with ⟨⟩ | a
  · exact Ensures.throw (herror rfl)
  · exact Ensures.pure (hok a rfl)

/-- A session is given back on both ways out. -/
theorem ensures_holding {use : Step α}
    (h : Ensures cluster use (fun a c => post a c.release) fun e c => halt e c.release) :
    Ensures cluster (holding session use) post halt := by
  refine Yields.bind (Yields.mono h ?_)
  rintro (e | a) c h
  · exact Yields.bind (Yields.release (Yields.pure h))
  · exact Yields.bind (Yields.release (Yields.pure h))

end Ends

theorem ensures_openAt {target : Target} {post : Session → Cluster → Prop}
    (h : Yields cluster (connect target) fun result c =>
      match result with
      | .ok session => post session c
      | .error failure => halt (.settled (.connectionFailed target.text failure.message)) c) :
    Ensures cluster (openAt target) post halt := by
  refine Ensures.bind (Ensures.lift (h.mono ?_))
  rintro (failure | session) c h
  · exact ensures_unreachable h
  · exact Ensures.pure h

/-! ## Asking the local daemon -/

theorem ensures_ask {command : AdminCommand} {pending : Event} {post : Reply → Cluster → Prop}
    (hreply : ∀ reply, (cluster.run session command).1 = .ok reply →
      post reply (cluster.run session command).2)
    (hlost : ∀ failure, (cluster.run session command).1 = .error failure →
      halt (.settled (.ofFailure session.address failure)) (cluster.run session command).2) :
    Ensures cluster (ask session command pending name) post halt := by
  refine Ensures.bind (Ensures.lift (Yields.send ?_))
  rcases hrun : (cluster.run session command).1 with failure | reply
  · have hhalt := hlost failure hrun
    rw [ReplicaSetOutcome.ofFailure] at hhalt
    dsimp only
    split
    · next htimeout =>
      rw [if_pos htimeout] at hhalt
      exact Ensures.bind (Ensures.lift (Yields.report (ensures_settle hhalt)))
    · next htimeout =>
      rw [if_neg htimeout] at hhalt
      exact ensures_unreachable hhalt
  · exact Ensures.pure (hreply reply hrun)

/-- Whether a reply tells the live configuration of a replica set. -/
def Tells (reply : Reply) (name : String) (live : ReplicaConfig) : Prop :=
  reply.isOk = true ∧ reply.config = some live ∧ live.id = name

theorem ensures_fetch {post : ReplicaConfig → Cluster → Prop}
    (htold : ∀ reply live, (cluster.run session (.getConfig name)).1 = .ok reply →
      Tells reply name live → post live (cluster.run session (.getConfig name)).2)
    (huntold : ∀ reply, (cluster.run session (.getConfig name)).1 = .ok reply →
      (∀ live, ¬ Tells reply name live) →
      ∀ reason, halt (.settled (.failed reason)) (cluster.run session (.getConfig name)).2)
    (hlost : ∀ failure, (cluster.run session (.getConfig name)).1 = .error failure →
      halt (.settled (.ofFailure session.address failure))
        (cluster.run session (.getConfig name)).2) :
    Ensures cluster (fetch session name) post halt := by
  refine Ensures.bind (ensures_ask (fun reply hrun => ?_) hlost)
  have hrefused := huntold reply hrun
  cases hok : reply.isOk with
  | false =>
    refine Ensures.bind (ensures_fail (hrefused ?_ _))
    intro live htells
    cases hok.symm.trans htells.1
  | true =>
    simp only [Bool.not_true, Bool.false_eq_true, if_false]
    split
    · next hconfig =>
      refine ensures_fail (hrefused ?_ _)
      intro live htells
      cases hconfig.symm.trans htells.2.1
    · next live hconfig =>
      split
      · next hid => exact Ensures.pure (htold reply live hrun ⟨hok, hconfig, hid⟩)
      · next hid =>
        refine ensures_fail (hrefused ?_ _)
        intro live' htells
        cases hconfig.symm.trans htells.2.1
        exact hid htells.2.2

theorem ensures_initiateOrFetch {members : List Member}
    {post : Option ReplicaConfig → Cluster → Prop}
    (hinitiated : ∀ reply, (cluster.run session (.initiate (.initial name members))).1 = .ok reply →
      reply.isOk = true → post none (cluster.run session (.initiate (.initial name members))).2)
    (hthere : ∀ reply, (cluster.run session (.initiate (.initial name members))).1 = .ok reply →
      reply.reports Reply.alreadyInitialized = true →
      Ensures (cluster.run session (.initiate (.initial name members))).2 (fetch session name)
        (fun live c => post (some live) c) halt)
    (hrefused : ∀ reply, (cluster.run session (.initiate (.initial name members))).1 = .ok reply →
      reply.isOk = false → reply.reports Reply.alreadyInitialized = false →
      halt (.settled (.failed ("initiate rejected: " ++ reply.reason)))
        (cluster.run session (.initiate (.initial name members))).2)
    (hlost : ∀ failure,
      (cluster.run session (.initiate (.initial name members))).1 = .error failure →
      halt (.settled (.ofFailure session.address failure))
        (cluster.run session (.initiate (.initial name members))).2) :
    Ensures cluster (initiateOrFetch session name members) post halt := by
  refine Ensures.bind (ensures_ask (fun reply hrun => ?_) hlost)
  split
  · next hok => exact Ensures.bind (Ensures.lift (Yields.report (Ensures.pure
      (hinitiated reply hrun hok))))
  · next hok =>
    split
    · next hreports =>
      exact Ensures.bind ((hthere reply hrun hreports).mono (fun _ _ h => Ensures.pure h)
        fun _ _ h => h)
    · next hreports =>
      exact ensures_fail (hrefused reply hrun (Bool.eq_false_iff.2 hok)
        (Bool.eq_false_iff.2 hreports))

/-! ## Sending the successor -/

section Successor

variable {live next : ReplicaConfig} {action : ReplicaSetAction} {port : UInt16}
  {post : ReplicaSetOutcome → Cluster → Prop}

theorem ensures_readBack {lost : Failure}
    (hreflects : ∀ reply live, (cluster.run session (.getConfig next.id)).1 = .ok reply →
      reply.isOk = true → reply.config = some live → live.reflects next = true →
      post (.configCurrent live.version action) (cluster.run session (.getConfig next.id)).2)
    (hother : (∀ reply live, (cluster.run session (.getConfig next.id)).1 = .ok reply →
        reply.isOk = true → reply.config = some live → live.reflects next = false) →
      ∀ reason, halt (.settled (.failed reason)) (cluster.run session (.getConfig next.id)).2) :
    Ensures cluster (readBack session next action lost) post halt := by
  refine Ensures.bind (Ensures.lift (Yields.send ?_))
  rcases hrun : (cluster.run session (.getConfig next.id)).1 with failure | reply
  · refine ensures_unverified (hother ?_)
    intro reply live hreply
    cases hrun.symm.trans hreply
  · dsimp only
    split
    · next live hok hconfig =>
      split
      · next hshows =>
        exact Ensures.bind (Ensures.lift (Yields.report (Ensures.pure
          (hreflects reply live hrun hok hconfig hshows))))
      · next hshows =>
        refine ensures_fail (hother ?_ _)
        intro reply' live' hreply _ hconfig'
        cases hrun.symm.trans hreply
        cases hconfig.symm.trans hconfig'
        exact Bool.eq_false_iff.2 hshows
    · next hnone =>
      refine ensures_unverified (hother ?_)
      intro reply' live hreply hok hconfig
      cases hrun.symm.trans hreply
      exact absurd hconfig (hnone live hok)

theorem ensures_verify {lost : Failure}
    (h : Yields cluster (connect (.localhost port)) fun result c =>
      match result with
      | .ok session => Ensures c (readBack session next action lost)
          (fun outcome c => post outcome c.release) fun e c => halt e c.release
      | .error _ => ∀ reason, halt (.settled (.failed reason)) c) :
    Ensures cluster (verify port next action lost) post halt := by
  refine Ensures.bind (Ensures.lift (h.mono ?_))
  rintro (failure | session) c h
  · exact ensures_unverified h
  · exact ensures_holding h

theorem ensures_submit {post : Except Failure ReplicaSetOutcome → Cluster → Prop}
    (hok : ∀ reply, (cluster.run session (.reconfig next)).1 = .ok reply → reply.isOk = true →
      post (.ok (.configCurrent next.version action)) (cluster.run session (.reconfig next)).2)
    (hrefused : ∀ reply, (cluster.run session (.reconfig next)).1 = .ok reply →
      reply.isOk = false → halt (.settled (.failed ("reconfig rejected: " ++ reply.reason)))
        (cluster.run session (.reconfig next)).2)
    (htimeout : ∀ failure, (cluster.run session (.reconfig next)).1 = .error failure →
      failure.isTimeout = true → halt (.settled (.pendingConvergence failure.message))
        (cluster.run session (.reconfig next)).2)
    (hlost : ∀ failure, (cluster.run session (.reconfig next)).1 = .error failure →
      failure.isTimeout = false → post (.error failure)
        (cluster.run session (.reconfig next)).2) :
    Ensures cluster (submit session next action) post halt := by
  refine Ensures.bind (Ensures.lift (Yields.send ?_))
  rcases hrun : (cluster.run session (.reconfig next)).1 with failure | reply
  · dsimp only
    split
    · next htime =>
      exact Ensures.bind (Ensures.lift (Yields.report (ensures_settle
        (htimeout failure hrun htime))))
    · next htime => exact Ensures.pure (hlost failure hrun (Bool.eq_false_iff.2 htime))
  · dsimp only
    split
    · next hcarried =>
      exact Ensures.bind (Ensures.lift (Yields.report (Ensures.pure (hok reply hrun hcarried))))
    · next hcarried => exact ensures_fail (hrefused reply hrun (Bool.eq_false_iff.2 hcarried))

/-- When the answer is known, two ways out are left. -/
theorem ensures_submit_of_reply {reply : Reply}
    {post : Except Failure ReplicaSetOutcome → Cluster → Prop}
    (hrun : (cluster.run session (.reconfig next)).1 = .ok reply)
    (hok : reply.isOk = true →
      post (.ok (.configCurrent next.version action)) (cluster.run session (.reconfig next)).2)
    (hrefused : reply.isOk = false →
      halt (.settled (.failed ("reconfig rejected: " ++ reply.reason)))
        (cluster.run session (.reconfig next)).2) :
    Ensures cluster (submit session next action) post halt := by
  refine ensures_submit ?_ ?_ ?_ ?_
  · intro other hother hcarried
    cases hrun.symm.trans hother
    exact hok hcarried
  · intro other hother hcarried
    cases hrun.symm.trans hother
    exact hrefused hcarried
  · intro failure hlost
    cases hrun.symm.trans hlost
  · intro failure hlost
    cases hrun.symm.trans hlost

/-- A successor is sent over a session at the live members; when the connection is lost, its fate is
looked up. -/
theorem ensures_reconfigure (hnext : next.isSuccessorOf live = .ok true)
    (h : Ensures cluster (openAt (.members live.hosts))
      (fun session c => Ensures c (submit session next action)
        (fun result c =>
          match result with
          | .ok outcome => post outcome c.release
          | .error lost => Ensures c.release (verify port next action lost) post halt)
        fun e c => halt e c.release) halt) :
    Ensures cluster (reconfigure port live next action) post halt := by
  rw [reconfigure, hnext]
  refine Ensures.bind (ensures_fitting (fun _ heq => ?_) nofun)
  cases heq
  refine Ensures.bind (h.mono ?_ fun _ _ h => h)
  intro session c h
  refine Ensures.bind (ensures_holding (h.mono ?_ fun _ _ h => h))
  rintro (lost | outcome) c h
  · exact h
  · exact Ensures.pure h

end Successor

/-! ## From the live configuration to the desired members -/

section Whole

variable {live : ReplicaConfig} {desired : DesiredMembers} {port : UInt16}
  {post : ReplicaSetOutcome → Cluster → Prop}

theorem ensures_keep (h : post (.configCurrent live.version .unchanged) cluster) :
    Ensures cluster (keep live name) post halt :=
  Ensures.bind (Ensures.lift (Yields.report (Ensures.pure h)))

/-- The remedy decides what becomes of a live configuration. -/
theorem ensures_adjust
    (hkeep : desired.remedy live = .ok none →
      post (.configCurrent live.version .unchanged) cluster)
    (hsend : ∀ next action, desired.remedy live = .ok (some (next, action)) →
      Ensures cluster (reconfigure port live next action) post halt)
    (hhalt : ∀ cause, desired.remedy live = .error cause → halt cause cluster) :
    Ensures cluster (adjust port name desired live) post halt := by
  rw [DesiredMembers.remedy] at hkeep hsend hhalt
  rw [adjust]
  rcases hcompare : desired.compare live with - | - | - <;> rw [hcompare] at hkeep hsend hhalt
  · exact ensures_keep (hkeep rfl)
  · show Ensures cluster (migrate port name desired live) post halt
    dsimp only at hsend hhalt
    rw [migrate]
    rcases hrenamed : live.renamed desired.ipToHost with (host | -) | next <;>
      rw [hrenamed] at hsend hhalt
    · exact ensures_fail (hhalt _ rfl)
    · exact Ensures.throw (hhalt _ rfl)
    · exact Ensures.bind (Ensures.lift (Yields.report (hsend _ _ rfl)))
  · -- the successor is prepared before it is known whether there is anything to exchange
    show Ensures cluster (exchange port name desired live) post halt
    dsimp only at hkeep hsend hhalt
    rw [exchange]
    refine Ensures.bind (ensures_fitting ?_ ?_)
    · rintro ⟨next, diff⟩ hwith
      rw [hwith] at hkeep hsend
      dsimp only at hkeep hsend ⊢
      cases hempty : diff.isEmpty with
      | true =>
        rw [hempty] at hkeep
        exact ensures_keep (hkeep rfl)
      | false =>
        rw [hempty] at hsend
        exact Ensures.bind (Ensures.lift (Yields.report (hsend _ _ rfl)))
    · intro hwith
      rw [hwith] at hhalt
      exact hhalt _ rfl

theorem ensures_converge
    (h : Ensures cluster (openAt (.localhost port))
      (fun session c => Ensures c (initiateOrFetch session name desired.byHost)
        (fun found c =>
          match found with
          | none => post (.configCurrent initialVersion .initiated) c.release
          | some live => Ensures c.release (adjust port name desired live) post halt)
        fun cause c => halt cause c.release) halt) :
    Ensures cluster (converge port name desired) post halt := by
  refine Ensures.bind (h.mono ?_ fun _ _ h => h)
  intro session c h
  refine Ensures.bind (ensures_holding (h.mono ?_ fun _ _ h => h))
  rintro (- | live) c h
  · exact Ensures.pure h
  · exact h

end Whole

end Step

open Activity in
/-- Without candidates nothing is done, and on a node that is on its own that ends the run. -/
theorem ensures_convergeReplicaSet_nil {cluster : Cluster} {port : UInt16} {solo : Bool}
    {name : String} {post : ReplicaSetOutcome → Cluster → Prop} {halt : Abort → Cluster → Prop}
    (hsolo : solo = true → halt (.error (.noMembers name)) cluster)
    (hother : solo = false → post .noMembersFound cluster) :
    Ensures cluster (convergeReplicaSet port solo name []) post halt := by
  rw [convergeReplicaSet]
  refine Ensures.bind (Ensures.lift (Yields.report ?_))
  cases solo with
  | true => exact Ensures.bind (Ensures.throw (hsolo rfl))
  | false => exact Ensures.pure (hother rfl)

open Activity in
/-- With candidates, a convergence ends as its steps do; only an overflow ends the run. -/
theorem ensures_convergeReplicaSet {cluster : Cluster} {port : UInt16} {solo : Bool} {name : String}
    {candidates : List Node} {post : ReplicaSetOutcome → Cluster → Prop}
    {halt : Abort → Cluster → Prop} (hcandidates : candidates ≠ [])
    (h : Ensures cluster (Step.converge port name (.ofCandidates candidates)) post
      fun cause c =>
        match cause with
        | .settled outcome => post outcome c
        | .overflow => halt .overflow c) :
    Ensures cluster (convergeReplicaSet port solo name candidates) post halt := by
  have hisEmpty : candidates.isEmpty = false := by simpa using hcandidates
  rw [convergeReplicaSet, hisEmpty]
  refine Ensures.bind (Ensures.lift (Yields.report ?_))
  refine Ensures.bind (Ensures.lift (Yields.mono h ?_))
  rintro ((outcome | -) | outcome) c h
  · cases outcome with
    | failed reason => exact Ensures.bind (Ensures.lift (Yields.report (Ensures.pure h)))
    | _ => exact Ensures.pure h
  · exact Ensures.throw h
  · cases outcome with
    | failed reason => exact Ensures.bind (Ensures.lift (Yields.report (Ensures.pure h)))
    | _ => exact Ensures.pure h

end ClusterConvergence
