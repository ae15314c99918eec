import ClusterConvergence.Proofs.Cluster.Probe
import ClusterConvergence.Proofs.ReplicaSet.Step

/-!
# Outcomes that deny a change

Two outcomes say that nothing was done: there were no candidates, or the cluster could not be
reached.  They are true in all cases but one.  When the connection is lost over a successor, the live
configuration is read again, so that its fate is known or the outcome is a failure.  When it is lost
over the command that initiates the replica set, nobody looks, although the replica set may have
been initiated: `Cluster.LosesInitiation`.

Main statement: `denies_change_iff`.
-/

namespace ClusterConvergence

open Activity

/-- Whether an outcome says that nothing was done. -/
def ReplicaSetOutcome.deniesChange : ReplicaSetOutcome → Bool
  | .connectionFailed _ _ => true
  | .noMembersFound => true
  | _ => false

/-- Whether an end says that nothing was done. -/
def Halt.deniesChange : Halt → Bool
  | .settled outcome => outcome.deniesChange
  | .overflow => false

/-- The replica set gets initiated, and the connection is lost before the answer arrives. -/
structure Cluster.LosesInitiation (cluster : Cluster) (port : UInt16) (initial : ReplicaConfig) :
    Prop where
  replicaSet : cluster.replicaSet = none
  defect : initial.defect? = none
  accepts : cluster.accepts (addressOf "localhost" port) = true
  fault : cluster.pendingFault (.initiate initial) = some .dropAfterApply

/-- A connection that is lost over an initiation leaves the replica set as it was, unless the
initiation took effect before. -/
theorem Cluster.replicaSet_of_lost {cluster : Cluster} {session : Session} {initial : ReplicaConfig}
    {failure : Failure} (hlost : (cluster.run session (.initiate initial)).1 = .error failure)
    (hconnection : failure.isTimeout = false)
    (hnot : ¬ (cluster.replicaSet = none ∧ initial.defect? = none ∧
      cluster.pendingFault (.initiate initial) = some .dropAfterApply)) :
    (cluster.run session (.initiate initial)).2.replicaSet = cluster.replicaSet := by
  refine run_replicaSet_of_not_carriesOut (Bool.eq_false_iff.2 fun hcarried => hnot ?_)
  obtain ⟨heffect, hnone, hdefect⟩ := carriesOut_initiate_iff.1 hcarried
  refine ⟨hnone, hdefect, ?_⟩
  rcases exists_lost_iff.1 ⟨failure, hlost, hconnection⟩ with hdrop | hdrop
  · rw [hdrop] at heffect
    cases heffect
  · exact hdrop

namespace Step

variable {cluster : Cluster} {session : Session} {name : String} {port : UInt16}
  {live next : ReplicaConfig} {action : ReplicaSetAction} {desired : DesiredMembers}

/-- Once a session at the members is open, no end denies a change any more. -/
theorem reconfigure_denies (hnext : next.isSuccessorOf live = .ok true) :
    Ensures cluster (reconfigure port live next action)
      (fun outcome _ => outcome.deniesChange = false)
      fun cause c => cause.deniesChange = true → c.replicaSet = cluster.replicaSet := by
  refine ensures_reconfigure hnext (ensures_openAt ((yields_connectMembers _).mono ?_))
  rintro (failure | session) c ⟨hprobed, -⟩
  · exact fun _ => hprobed.replicaSet
  · refine ensures_submit ?_ (fun _ _ _ => nofun) (fun _ _ _ => nofun) fun lost _ _ => ?_
    · exact fun _ _ _ => rfl
    · refine ensures_verify (Yields.openSession ?_)
      split
      · exact ensures_readBack (fun _ _ _ _ _ _ => rfl) fun _ _ => nofun
      · exact fun _ => nofun

theorem adjust_denies :
    Ensures cluster (adjust port name desired live)
      (fun outcome _ => outcome.deniesChange = false)
      fun cause c => cause.deniesChange = true → c.replicaSet = cluster.replicaSet := by
  refine ensures_adjust (fun _ => rfl) (fun next action hsend => ?_) fun cause _ _ => rfl
  exact reconfigure_denies (DesiredMembers.isSuccessorOf_of_send hsend).2.2

/-- Asking for the live configuration changes nothing. -/
theorem fetch_denies :
    Ensures cluster (fetch session name) (fun _ c => c.replicaSet = cluster.replicaSet)
      fun _ c => c.replicaSet = cluster.replicaSet :=
  have hkept := Cluster.run_getConfig_replicaSet cluster session name
  ensures_fetch (fun _ _ _ _ => hkept) (fun _ _ _ _ => hkept) fun _ _ => hkept

/-- Unless an initiation gets lost, an end that denies a change leaves the replica set as it was. -/
theorem converge_denies (hnot : ¬ cluster.LosesInitiation port (.initial name desired.byHost)) :
    Ensures cluster (converge port name desired)
      (fun outcome _ => outcome.deniesChange = false)
      fun cause c => cause.deniesChange = true → c.replicaSet = cluster.replicaSet := by
  refine ensures_converge (ensures_openAt (Yields.openSession ?_))
  cases haccepts : cluster.accepts (addressOf "localhost" port) with
  | false =>
    rw [Cluster.openSession_of_not_accepts haccepts]
    exact fun _ => rfl
  | true =>
    rw [Cluster.openSession_of_accepts haccepts]
    have hopened := cluster.openSession_replicaSet (addressOf "localhost" port)
    refine ensures_initiateOrFetch (fun _ _ _ => rfl) ?_ (fun _ _ _ _ => nofun) ?_
    · -- the replica set was there before, so this command did nothing
      intro reply hreply hreports
      rw [Reply.reports, Bool.and_eq_true, Bool.not_eq_true'] at hreports
      have hkept := (Cluster.run_replicaSet_of_refused hreply hreports.1).trans hopened
      refine fetch_denies.mono ?_ fun _ _ hfetched _ => hfetched.trans hkept
      intro live c hfetched
      refine adjust_denies.mono (fun _ _ h => h) fun _ _ h hdenies => ?_
      exact (h hdenies).trans (hfetched.trans hkept)
    · intro failure hlost hdenies
      have hconnection : failure.isTimeout = false := by
        rw [Halt.deniesChange, ReplicaSetOutcome.ofFailure] at hdenies
        split at hdenies
        · cases hdenies
        · next hnot => exact Bool.eq_false_iff.2 hnot
      refine (Cluster.replicaSet_of_lost hlost hconnection ?_).trans hopened
      rintro ⟨hnone, hdefect, hfault⟩
      rw [Cluster.openSession_pendingFault] at hfault
      exact hnot ⟨hopened ▸ hnone, hdefect, haccepts, hfault⟩

/-- When an initiation gets lost, the end denies what happened. -/
theorem converge_loses (h : cluster.LosesInitiation port (.initial name desired.byHost)) :
    Ensures cluster (converge port name desired) (fun _ _ => False)
      fun cause c =>
        cause = .settled (.connectionFailed (addressOf "localhost" port)
          (Failure.dropped (addressOf "localhost" port)
            (.initiate (.initial name desired.byHost))).message) ∧
        c.replicaSet = some (.initial name desired.byHost) := by
  have hlost := @Cluster.run_fst_of_failure (cluster.openSession (addressOf "localhost" port)).2
    ⟨addressOf "localhost" port⟩ (.initiate (.initial name desired.byHost)) _ _
    ((cluster.openSession_pendingFault _).trans h.fault) rfl
  refine ensures_converge (ensures_openAt (Yields.openSession ?_))
  rw [Cluster.openSession_of_accepts h.accepts]
  refine ensures_initiateOrFetch ?_ ?_ ?_ ?_
  · intro reply hreply
    cases hlost.symm.trans hreply
  · intro reply hreply
    cases hlost.symm.trans hreply
  · intro reply hreply
    cases hlost.symm.trans hreply
  · intro failure hfailure
    cases hlost.symm.trans hfailure
    refine ⟨rfl, (Cluster.of_carriesOut_initiate (Cluster.carriesOut_initiate_iff.2 ?_)).2⟩
    rw [Cluster.openSession_pendingFault, Cluster.openSession_replicaSet, h.fault]
    exact ⟨rfl, h.replicaSet, h.defect⟩

end Step

namespace Cluster.LosesInitiation

variable {cluster : Cluster} {port : UInt16} {name : String} {candidates : List Node}

/-- Without members there is nothing to initiate. -/
theorem candidates_ne_nil (h : cluster.LosesInitiation port
    (.initial name (DesiredMembers.ofCandidates candidates).byHost)) : candidates ≠ [] := by
  rintro rfl
  have hmembers := (ReplicaConfig.defect?_eq_none_iff.1 h.defect).1
  rw [DesiredMembers.byHost_ofCandidates, DesiredMembers.sorted_eq_self List.Pairwise.nil]
    at hmembers
  exact hmembers rfl

end Cluster.LosesInitiation

section Runs

variable {site : Site} {port : UInt16} {solo : Bool} {name : String} {candidates : List Node}

/-- Unless an initiation gets lost, an outcome that denies a change is true. -/
theorem unchanged_of_denies (hnot : ¬ site.cluster.LosesInitiation port
    (.initial name (DesiredMembers.ofCandidates candidates).byHost)) :
    Ensures site.cluster (convergeReplicaSet port solo name candidates)
      (fun outcome c => outcome.deniesChange = true → c.replicaSet = site.cluster.replicaSet)
      fun _ _ => True := by
  rcases candidates with - | ⟨node, nodes⟩
  · exact ensures_convergeReplicaSet_nil (fun _ => trivial) fun _ _ => rfl
  · refine ensures_convergeReplicaSet (List.cons_ne_nil _ _)
      ((Step.converge_denies hnot).mono ?_ ?_)
    · intro outcome c hchanged hdenies
      cases hchanged.symm.trans hdenies
    · rintro (outcome | -) c hdenied
      · exact hdenied
      · trivial

/-- When an initiation gets lost, the cluster is said to be out of reach, and the replica set has
been initiated. -/
theorem run_of_lost (h : site.cluster.LosesInitiation port
    (.initial name (DesiredMembers.ofCandidates candidates).byHost)) :
    let run := (convergeReplicaSet port solo name candidates).run.run site
    let initial := ReplicaConfig.initial name (DesiredMembers.ofCandidates candidates).byHost
    let address := addressOf "localhost" port
    run.1 = .ok (.connectionFailed address (Failure.dropped address (.initiate initial)).message) ∧
      run.2.cluster.replicaSet = some initial := by
  intro run initial address
  have hends : Ensures site.cluster (convergeReplicaSet port solo name candidates)
      (fun outcome c => outcome = .connectionFailed address
        (Failure.dropped address (.initiate initial)).message ∧ c.replicaSet = some initial)
      fun _ _ => False := by
    refine ensures_convergeReplicaSet h.candidates_ne_nil ((Step.converge_loses h).mono ?_ ?_)
    · exact fun _ _ => False.elim
    · rintro _ c ⟨rfl, hinitiated⟩
      exact ⟨rfl, hinitiated⟩
  obtain ⟨outcome, hrun, rfl, hinitiated⟩ := hends.exists_ok
  exact ⟨hrun, hinitiated⟩

end Runs

/-- An outcome that says that nothing was done is true exactly if no initiation gets lost: the one
that the run asks for takes effect, and the connection breaks before the answer arrives.  In that
case the cluster is said to be out of reach, although the replica set has just been initiated.  All
other faults may hit all commands, in any order, and any reply may be forged. -/
theorem denies_change_iff (site : Site) (port : UInt16) (solo : Bool) (name : String)
    (candidates : List Node) :
    let run := (convergeReplicaSet port solo name candidates).run.run site
    let initial := ReplicaConfig.initial name (DesiredMembers.ofCandidates candidates).byHost
    let address := addressOf "localhost" port
    ((∀ outcome, run.1 = .ok outcome → outcome.deniesChange = true →
        run.2.cluster.replicaSet = site.cluster.replicaSet) ↔
      ¬ site.cluster.LosesInitiation port initial) ∧
    (site.cluster.LosesInitiation port initial →
      run.1 =
        .ok (.connectionFailed address (Failure.dropped address (.initiate initial)).message) ∧
      site.cluster.replicaSet = none ∧ run.2.cluster.replicaSet = some initial) := by
  intro run initial address
  refine ⟨⟨fun htrue hlost => ?_, fun hnot outcome hrun hdenies => ?_⟩, fun hlost => ?_⟩
  · obtain ⟨hrun, hinitiated⟩ := run_of_lost hlost
    have hsame := htrue _ hrun rfl
    rw [hlost.replicaSet] at hsame
    cases hsame.symm.trans hinitiated
  · exact (unchanged_of_denies hnot).of_ok hrun hdenies
  · obtain ⟨hrun, hinitiated⟩ := run_of_lost hlost
    exact ⟨hrun, hlost.replicaSet, hinitiated⟩

/-- The replica set gets initiated, and the connection breaks before anybody is told. -/
def breakingSite : Site where
  cluster := { faults := [("replSetInitiate", .dropAfterApply)] }

/-- The only candidate for the replica set of `breakingSite`. -/
def soleCandidate : List Node :=
  [{ name := "a", fqdn := "a.cluster", ipAddress := "10.0.0.1" }]

theorem initiated_and_denied :
    let run := (convergeReplicaSet 27017 false "rs0" soleCandidate).run.run breakingSite
    run.1 = .ok (.connectionFailed "localhost:27017"
        "localhost:27017: connection dropped during replSetInitiate") ∧
      breakingSite.cluster.replicaSet = none ∧
      run.2.cluster.replicaSet =
        some { id := "rs0", version := 1, members := [⟨0, "a.cluster:27017"⟩] } := by
  intro run
  have hmembers :
      (DesiredMembers.ofCandidates soleCandidate).byHost = [⟨0, "a.cluster:27017"⟩] := by
    rw [DesiredMembers.byHost_ofCandidates, DesiredMembers.sorted_eq_self (by decide)]
    decide +kernel
  have hlost : breakingSite.cluster.LosesInitiation 27017
      (.initial "rs0" (DesiredMembers.ofCandidates soleCandidate).byHost) := by
    rw [hmembers]
    exact ⟨rfl, rfl, rfl, rfl⟩
  obtain ⟨hrun, hinitiated⟩ := run_of_lost hlost
  rw [hmembers] at hinitiated
  exact ⟨hrun.trans rfl, rfl, hinitiated⟩

end ClusterConvergence
