import ClusterConvergence.Proofs.Cluster.Probe
import ClusterConvergence.Proofs.ReplicaSet.Step

/-!
# A current configuration is the live one

Whatever faults hit the commands of a run: if it says that the configuration is current, then the
cluster has that configuration, with the desired hosts (`current_is_live`).  All that is asked is
that nobody forges the replies about the replica set.

After a lost connection the live configuration is read again.  The cluster has the configuration
from before or the successor then, and the version tells which one.
-/

namespace ClusterConvergence

open Activity

/-- No reply about the replica set is forged. -/
structure Cluster.Honest (cluster : Cluster) : Prop where
  initiate : ¬ cluster.Forges "replSetInitiate"
  getConfig : ¬ cluster.Forges "replSetGetConfig"
  reconfig : ¬ cluster.Forges "replSetReconfig"

namespace Cluster.Honest

variable {cluster after : Cluster}

theorem of_forges (h : cluster.Honest) (himp : ∀ name, after.Forges name → cluster.Forges name) :
    after.Honest :=
  ⟨mt (himp _) h.initiate, mt (himp _) h.getConfig, mt (himp _) h.reconfig⟩

theorem probed (h : cluster.Honest) (hprobed : Probed cluster after) : after.Honest :=
  h.of_forges fun _ => hprobed.forges

theorem run (h : cluster.Honest) (session : Session) (command : AdminCommand) :
    (cluster.run session command).2.Honest :=
  h.of_forges fun _ => Cluster.Forges.of_run

end Cluster.Honest

/-- An end that does not say that the configuration is current. -/
def Halt.NotCurrent (cause : Halt) : Prop :=
  ∀ version action, cause ≠ .settled (.configCurrent version action)

theorem Halt.notCurrent_ofFailure (target : String) (failure : Failure) :
    (Halt.settled (.ofFailure target failure)).NotCurrent := by
  intro version action heq
  rw [ReplicaSetOutcome.ofFailure] at heq
  split at heq <;> cases heq

namespace Step

variable {cluster : Cluster} {session : Session} {name : String} {port : UInt16}
  {live next : ReplicaConfig} {action : ReplicaSetAction}

/-- What was read is the live configuration, and reading changes nothing. -/
theorem fetch_sound (hhonest : cluster.Honest) :
    Ensures cluster (fetch session name)
      (fun live c => c.Honest ∧ cluster.replicaSet = some live ∧
        c.replicaSet = cluster.replicaSet ∧ live.id = name)
      fun cause _ => cause.NotCurrent := by
  refine ensures_fetch ?_ (fun _ _ _ _ => nofun) fun failure _ => Halt.notCurrent_ofFailure _ _
  rintro reply live hrun ⟨hok, hconfig, hid⟩
  obtain ⟨hlive, -⟩ := Cluster.live_of_getConfig hhonest.getConfig hrun hok hconfig
  exact ⟨hhonest.run _ _, hlive, Cluster.run_getConfig_replicaSet _ _ _, hid⟩

/-- Either the replica set was initiated just now, or its live configuration is at hand, and nothing
was changed. -/
theorem initiateOrFetch_sound {members : List Member} (hhonest : cluster.Honest) :
    Ensures cluster (initiateOrFetch session name members)
      (fun found c =>
        match found with
        | none => c.replicaSet = some (.initial name members)
        | some live => c.Honest ∧ cluster.replicaSet = some live ∧
          c.replicaSet = cluster.replicaSet ∧ live.id = name)
      fun cause _ => cause.NotCurrent := by
  refine ensures_initiateOrFetch ?_ ?_ (fun _ _ _ _ => nofun)
    fun failure _ => Halt.notCurrent_ofFailure _ _
  · intro reply hrun hok
    have hcarried := Cluster.carriesOut_of_isOk hhonest.initiate hrun hok
    exact (Cluster.of_carriesOut_initiate hcarried).2
  · intro reply hrun hreports
    rw [Reply.reports, Bool.and_eq_true, Bool.not_eq_true'] at hreports
    have hkept := Cluster.run_replicaSet_of_refused hrun hreports.1
    refine (fetch_sound (hhonest.run _ _)).mono ?_ fun _ _ h => h
    rintro live c ⟨hhonest', hlive, hkept', hid⟩
    exact ⟨hhonest', hkept ▸ hlive, hkept'.trans hkept, hid⟩

/-- After a lost connection the version of what is read back gives away the successor. -/
theorem verify_sound {lost : Failure} (hhonest : cluster.Honest)
    (hversion : live.version < next.version)
    (hstate : cluster.replicaSet = some live ∨
      cluster.replicaSet = some next ∧ next.defect? = none) :
    Ensures cluster (verify port next action lost)
      (fun outcome c => outcome = .configCurrent next.version action ∧
        c.replicaSet = some next ∧ next.defect? = none)
      fun cause _ => cause.NotCurrent := by
  refine ensures_verify (Yields.openSession ?_)
  have hprobed := Probed.openSession cluster (addressOf "localhost" port)
  split
  · next session _ =>
    refine ensures_readBack ?_ fun _ _ => nofun
    intro reply live' hrun hok hconfig hreflects
    obtain ⟨hlive', -⟩ :=
      Cluster.live_of_getConfig (hhonest.probed hprobed).getConfig hrun hok hconfig
    rw [hprobed.replicaSet] at hlive'
    rcases hstate with hlive | ⟨hnext, hdefect⟩
    · -- the configuration from before is too old to reflect the successor
      cases hlive.symm.trans hlive'
      cases (ReplicaConfig.reflects_eq_false_of_lt hversion).symm.trans hreflects
    · cases hnext.symm.trans hlive'
      refine ⟨rfl, ?_, hdefect⟩
      show (Cluster.run _ _ _).2.replicaSet = some next
      rw [Cluster.run_getConfig_replicaSet, hprobed.replicaSet, hnext]
  · exact fun _ => nofun

/-- When a successor is said to be current, it is live. -/
theorem reconfigure_sound (hhonest : cluster.Honest) (hlive : cluster.replicaSet = some live)
    (hnext : next.isSuccessorOf live = .ok true) (hversion : live.version < next.version) :
    Ensures cluster (reconfigure port live next action)
      (fun outcome c => outcome = .configCurrent next.version action ∧
        c.replicaSet = some next ∧ next.defect? = none)
      fun cause _ => cause.NotCurrent := by
  refine ensures_reconfigure hnext (ensures_openAt ((yields_connectMembers _).mono ?_))
  rintro (failure | session) c ⟨hprobed, -⟩
  · exact nofun
  · have hhonest' := hhonest.probed hprobed
    refine ensures_submit ?_ (fun _ _ _ => nofun) (fun _ _ _ => nofun) ?_
    · intro reply hrun hok
      have hcarried := Cluster.carriesOut_of_isOk hhonest'.reconfig hrun hok
      obtain ⟨⟨_, -, -, -, hdefect⟩, hafter⟩ := Cluster.of_carriesOut_reconfig hcarried
      exact ⟨rfl, hafter, hdefect⟩
    · -- nobody knows what became of the successor, but it took effect or it did not
      intro failure _ _
      refine verify_sound ((hhonest'.run _ _).probed (Probed.release _)) hversion ?_
      show (Cluster.run _ _ _).2.replicaSet = _ ∨ (Cluster.run _ _ _).2.replicaSet = _ ∧ _
      cases hcarried : c.carriesOut session (.reconfig next) with
      | false =>
        refine Or.inl ?_
        rw [Cluster.run_replicaSet_of_not_carriesOut hcarried, hprobed.replicaSet, hlive]
      | true =>
        obtain ⟨⟨_, -, -, -, hdefect⟩, hafter⟩ := Cluster.of_carriesOut_reconfig hcarried
        exact Or.inr ⟨hafter, hdefect⟩

end Step

/-- The cluster has a configuration of this name and version with exactly these hosts. -/
def Cluster.Shows (cluster : Cluster) (name : String) (version : UInt64) (hosts : List String) :
    Prop :=
  ∃ live, cluster.replicaSet = some live ∧ live.id = name ∧ live.version = version ∧
    ∀ host, host ∈ live.hosts ↔ host ∈ hosts

namespace Step

variable {cluster : Cluster} {name : String} {port : UInt16} {candidates : List Node}

/-- A convergence tells the truth, and it tells when it changed nothing. -/
theorem converge_sound (hhonest : cluster.Honest) :
    Ensures cluster (converge port name (.ofCandidates candidates))
      (fun outcome c => ∃ version action, outcome = .configCurrent version action ∧
        c.Shows name version (DesiredMembers.ofCandidates candidates).hosts ∧
        (action = .unchanged → c.replicaSet = cluster.replicaSet))
      fun cause _ => cause.NotCurrent := by
  refine ensures_converge (ensures_openAt (Yields.openSession ?_))
  have hprobed := Probed.openSession cluster (addressOf "localhost" port)
  split
  · refine (initiateOrFetch_sound (hhonest.probed hprobed)).mono ?_ fun _ _ h => h
    rintro (- | live) c hfound
    · exact ⟨initialVersion, .initiated, rfl, ⟨_, hfound, rfl, rfl, fun _ => Iff.rfl⟩, nofun⟩
    · obtain ⟨hhonest', hlive, hkept, hid⟩ := hfound
      rw [hprobed.replicaSet] at hkept
      rw [hprobed.replicaSet] at hlive
      refine ensures_adjust ?_ ?_ ?_
      · intro hkeep
        have hhosts := DesiredMembers.hosts_of_keep hkeep
        exact ⟨live.version, .unchanged, rfl, ⟨live, hkept.trans hlive, hid, rfl, hhosts⟩,
          fun _ => hkept⟩
      · intro next action hsend
        obtain ⟨hnextId, -, hnext⟩ := DesiredMembers.isSuccessorOf_of_send hsend
        have hrelease := Probed.release c
        refine (reconfigure_sound (hhonest'.probed hrelease) (hkept.trans hlive) hnext
          (DesiredMembers.version_lt_of_send hsend)).mono ?_ fun _ _ h => h
        rintro outcome c' ⟨rfl, hafter, hdefect⟩
        have hnodup := (ReplicaConfig.defect?_eq_none_iff.1 hdefect).2.2
        have hhosts := DesiredMembers.hosts_of_send hsend hnodup
        refine ⟨next.version, action, rfl, ⟨next, hafter, hnextId.trans hid, rfl, hhosts⟩, ?_⟩
        intro hunchanged
        exact absurd hunchanged (DesiredMembers.action_of_send hsend)
      · intro cause hcause
        rcases DesiredMembers.cause_of_error hcause with rfl | ⟨reason, rfl⟩ <;> exact nofun
  · exact nofun

end Step

/-- If a run says that the configuration is current, then the live configuration belongs to the
replica set of that name, has the version that the run tells, and its hosts are those of the
candidates.  If the run says that nothing was changed, that configuration was live before.  Faults
may hit every command, and neither the live configuration nor the candidates have to be free of
repetitions. -/
theorem current_is_live {site : Site} {port : UInt16} {solo : Bool} {name : String}
    {candidates : List Node} {version : UInt64} {action : ReplicaSetAction}
    (hcandidates : candidates ≠ []) (hhonest : site.cluster.Honest)
    (hcurrent : ((convergeReplicaSet port solo name candidates).run.run site).1 =
      .ok (.configCurrent version action)) :
    ∃ live, ((convergeReplicaSet port solo name candidates).run.run site).2.cluster.replicaSet =
        some live ∧
      live.id = name ∧ live.version = version ∧
      (∀ host, host ∈ live.hosts ↔ host ∈ candidates.map Node.host) ∧
      (action = .unchanged → site.cluster.replicaSet = some live) := by
  have hsound : Ensures site.cluster (convergeReplicaSet port solo name candidates)
      (fun outcome c => ∀ version action, outcome = .configCurrent version action →
        c.Shows name version (DesiredMembers.ofCandidates candidates).hosts ∧
        (action = .unchanged → c.replicaSet = site.cluster.replicaSet))
      fun _ _ => True := by
    refine ensures_convergeReplicaSet hcandidates ((Step.converge_sound hhonest).mono ?_ ?_)
    · rintro _ c ⟨version, action, rfl, h⟩ _ _ ⟨⟩
      exact h
    · intro cause c hnot
      cases cause with
      | settled outcome => exact fun version action heq => absurd (congrArg _ heq) (hnot _ _)
      | overflow => trivial
  have hrun := Yields.of_run hsound
  rw [hcurrent] at hrun
  obtain ⟨⟨live, hlive, hid, hversion, hhosts⟩, hkept⟩ := hrun version action rfl
  refine ⟨live, hlive, hid, hversion, ?_, fun hunchanged => ?_⟩
  · exact fun host => (hhosts host).trans DesiredMembers.mem_hosts_ofCandidates
  · exact (hkept hunchanged).symm.trans hlive

/-- The live configuration lists one of the two nodes.  A forged hello sends the search for the
primary astray, and the connection is lost after the successor took effect. -/
def lossySite : Site where
  cluster :=
    { replicaSet := some { id := "rs", version := 4, members := [⟨3, "a:27017"⟩, ⟨7, "x:27017"⟩] }
      faults := [("hello", .reply { primary := some "y:27017" }),
        ("replSetReconfig", .dropAfterApply)] }

/-- The nodes that the replica set of `lossySite` shall have. -/
def lossyCandidates : List Node :=
  [{ name := "a", fqdn := "a", ipAddress := "10.0.0.1" },
    { name := "b", fqdn := "b", ipAddress := "10.0.0.2" }]

theorem honest_lossySite : lossySite.cluster.Honest := by
  constructor <;> rintro ⟨reply, hmem⟩ <;> simp [lossySite] at hmem

theorem sorted_lossyCandidates : Node.sorted lossyCandidates = lossyCandidates :=
  DesiredMembers.sorted_eq_self (by decide)

theorem current_is_live_after_loss :
    let run := (convergeReplicaSet 27017 false "rs" lossyCandidates).run.run lossySite
    lossyCandidates ≠ [] ∧ lossySite.cluster.Honest ∧
      run.1 = .ok (.configCurrent 5 (.memberDiff ⟨["x:27017"], ["b:27017"]⟩)) ∧
      ∃ live, run.2.cluster.replicaSet = some live ∧ live.id = "rs" ∧ live.version = 5 ∧
        ∀ host, host ∈ live.hosts ↔ host ∈ ["a:27017", "b:27017"] := by
  intro run
  have hcurrent : run.1 = .ok (.configCurrent 5 (.memberDiff ⟨["x:27017"], ["b:27017"]⟩)) := by
    refine eq_ok_of_toOption ?_
    simp only [run, convergeReplicaSet, DesiredMembers.ofCandidates, sorted_lossyCandidates,
      Step.converge, Step.adjust, DesiredMembers.compare, Step.exchange, Step.reconfigure,
      Step.verify, Step.readBack, ReplicaConfig.reflects, sameMembers_eq_isPerm]
    decide +kernel
  have hcandidates : lossyCandidates ≠ [] := List.cons_ne_nil _ _
  obtain ⟨live, hlive, hid, hversion, hhosts, -⟩ :=
    @current_is_live lossySite _ _ _ _ _ _ hcandidates honest_lossySite hcurrent
  exact ⟨hcandidates, honest_lossySite, hcurrent, live, hlive, hid, hversion, hhosts⟩

end ClusterConvergence
