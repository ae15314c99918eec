import ClusterConvergence.Proofs.Cluster.Probe
import ClusterConvergence.Proofs.ReplicaSet.Step

/-!
# Runs that nothing interferes with

Where no fault waits, connections are not limited and the local daemon answers, a run depends on
nothing but the desired members and the live configuration: what it comes to is
`DesiredMembers.verdict`, and the configuration that it leaves is `DesiredMembers.result`.
-/

namespace ClusterConvergence

open Activity

namespace DesiredMembers

/-- What an undisturbed convergence comes to. -/
def verdict (desired : DesiredMembers) (live : ReplicaConfig) : Except Halt ReplicaSetOutcome :=
  match desired.remedy live with
  | .error cause => .error cause
  | .ok none => .ok (.configCurrent live.version .unchanged)
  | .ok (some (next, action)) =>
    match next.defect? with
    | none => .ok (.configCurrent next.version action)
    | some reason => .error (.settled (.failed ("reconfig rejected: " ++ reason)))

/-- The live configuration that an undisturbed convergence leaves. -/
def result (desired : DesiredMembers) (live : ReplicaConfig) : ReplicaConfig :=
  match desired.remedy live with
  | .ok (some (next, _)) => if next.defect?.isNone then next else live
  | _ => live

end DesiredMembers

/-! ## One cluster after another -/

/-- If nothing interferes with one cluster, then nothing interferes with the other one; the same
addresses answer. -/
structure Follows (before after : Cluster) : Prop where
  quiet : before.Quiet → after.Quiet
  unreachable : after.unreachable = before.unreachable

/-- Besides, the live configuration is the same one, and no successor was sent. -/
structure Keeps (before after : Cluster) : Prop extends Follows before after where
  replicaSet : after.replicaSet = before.replicaSet
  count : after.count "replSetReconfig" = before.count "replSetReconfig"

variable {a b c cluster : Cluster}

theorem Follows.trans (hab : Follows a b) (hbc : Follows b c) : Follows a c where
  quiet := hbc.quiet ∘ hab.quiet
  unreachable := hbc.unreachable.trans hab.unreachable

theorem Follows.run (cluster : Cluster) (session : Session) (command : AdminCommand) :
    Follows cluster (cluster.run session command).2 where
  quiet h := h.run session command
  unreachable := Cluster.run_unreachable cluster session command

theorem Probed.keeps (h : Probed a b) : Keeps a b where
  quiet := h.quiet
  unreachable := h.unreachable
  replicaSet := h.replicaSet
  count := h.count_eq (by decide)

theorem Keeps.trans (hab : Keeps a b) (hbc : Keeps b c) : Keeps a c where
  toFollows := hab.toFollows.trans hbc.toFollows
  replicaSet := hbc.replicaSet.trans hab.replicaSet
  count := hbc.count.trans hab.count

/-- A command that is only remembered keeps the cluster. -/
theorem Keeps.received {command : AdminCommand} (hcommand : command.name ≠ "replSetReconfig") :
    Keeps cluster (cluster.received command) where
  quiet h := by
    refine ⟨?_, h.budget⟩
    show (takeFault command.name cluster.faults).2 = []
    rw [h.faults]
    rfl
  unreachable := rfl
  replicaSet := rfl
  count := by
    show (cluster.commands ++ [command]).countP (·.name == "replSetReconfig") = _
    rw [List.countP_append, List.countP_singleton, if_neg (by simpa using hcommand)]
    rfl

/-! ## Commands -/

namespace Cluster.Quiet

variable {session : Session} {live config : ReplicaConfig} {name : String}

theorem initiate_of_none (h : cluster.Quiet) (hnone : cluster.replicaSet = none)
    (hdefect : config.defect? = none) :
    (cluster.run session (.initiate config)).1 = .ok .success ∧
      (cluster.run session (.initiate config)).2.replicaSet = some config := by
  rw [h.run_eq, apply]
  rcases (cluster.received (.initiate config)).initiate_cases config with
    ⟨-, -, hc⟩ | ⟨_, hlive, -⟩ | ⟨-, _, hreason, -⟩
  · rw [hc]
    exact ⟨rfl, rfl⟩
  · cases hlive.symm.trans hnone
  · cases hreason.symm.trans hdefect

theorem reconfig_of_live (h : cluster.Quiet) (hlive : cluster.replicaSet = some live)
    (hid : config.id = live.id) (hversion : live.version < config.version) :
    match config.defect? with
    | none => (cluster.run session (.reconfig config)).1 = .ok .success ∧
        (cluster.run session (.reconfig config)).2.replicaSet = some config
    | some reason => (cluster.run session (.reconfig config)).1 = .ok (.failure reason (some 93)) ∧
        (cluster.run session (.reconfig config)).2.replicaSet = some live := by
  have hreceived : (cluster.received (.reconfig config)).replicaSet = some live := hlive
  rw [h.run_eq, apply, reconfig, hreceived]
  simp only [hid, ne_eq, not_true_eq_false, if_false, UInt64.not_le.2 hversion]
  cases config.defect? with
  | none => exact ⟨rfl, rfl⟩
  | some reason => exact ⟨rfl, hlive⟩

end Cluster.Quiet

namespace Step

variable {session : Session} {name : String} {port : UInt16} {live next : ReplicaConfig}
  {action : ReplicaSetAction} {desired : DesiredMembers}

/-- Where no fault hits the question, it is answered, and asking leaves no other trace. -/
theorem fetch_unfaulted (hfault : cluster.pendingFault (.getConfig name) = none)
    (hlive : cluster.replicaSet = some live) :
    Ensures cluster (fetch session name)
      (fun found after => found = live ∧ live.id = name ∧
        after = cluster.received (.getConfig name))
      fun cause after => live.id ≠ name ∧ (∃ reason, cause = .settled (.failed reason)) ∧
        after = cluster.received (.getConfig name) := by
  have hafter : (cluster.run session (.getConfig name)).2 = cluster.received (.getConfig name) := by
    rw [Cluster.run_of_unfaulted hfault]
    rfl
  refine ensures_fetch ?_ ?_ ?_ <;> rw [hafter]
  · rintro reply found hreply ⟨hok, hconfig, hid⟩
    rw [Cluster.run_of_unfaulted hfault] at hreply
    cases hreply
    rcases (cluster.received (.getConfig name)).getConfig_cases name with
      ⟨found', hfound, hname, hc⟩ | ⟨-, hrefused⟩
    · cases hlive.symm.trans hfound
      rw [Cluster.apply, hc] at hconfig
      cases hconfig
      exact ⟨rfl, hid, rfl⟩
    · cases hok.symm.trans hrefused
  · intro reply hreply huntold reason
    refine ⟨fun hid => ?_, ⟨reason, rfl⟩, rfl⟩
    rw [Cluster.run_getConfig_of_live hfault hlive hid] at hreply
    cases hreply
    exact huntold live ⟨Reply.isOk_withConfig _, rfl, hid⟩
  · intro failure hlost
    rw [Cluster.run_of_unfaulted hfault] at hlost
    cases hlost

/-- Where there is a live configuration and no fault hits the two questions, it is found, and asking
leaves no other trace. -/
theorem initiateOrFetch_unfaulted {members : List Member}
    (hinitiate : cluster.pendingFault (.initiate (.initial name members)) = none)
    (hfetch : cluster.pendingFault (.getConfig name) = none)
    (hlive : cluster.replicaSet = some live) :
    Ensures cluster (initiateOrFetch session name members)
      (fun found after => found = some live ∧ live.id = name ∧
        after = (cluster.received (.initiate (.initial name members))).received (.getConfig name))
      fun cause after => live.id ≠ name ∧ (∃ reason, cause = .settled (.failed reason)) ∧
        after =
          (cluster.received (.initiate (.initial name members))).received (.getConfig name) := by
  have hrun := @Cluster.run_initiate_of_live cluster session _ _ hinitiate hlive
  refine ensures_initiateOrFetch ?_ ?_ ?_ ?_ <;> rw [hrun]
  · rintro _ ⟨⟩ hok
    cases hok.symm.trans (Reply.isOk_failure _ _)
  · -- the daemon has a replica set, and it says so in the words that are expected
    rintro _ ⟨⟩ -
    have hfetch' :
        (cluster.received (.initiate (.initial name members))).pendingFault (.getConfig name) =
          none :=
      (takeFault_of_ne (show "replSetGetConfig" ≠ "replSetInitiate" by decide) _).trans hfetch
    refine (fetch_unfaulted hfetch' hlive).mono ?_ ?_
    · rintro found after ⟨rfl, hid, hafter⟩
      exact ⟨rfl, hid, hafter⟩
    · exact fun _ _ h => h
  · rintro _ ⟨⟩ - hother
    cases hother.symm.trans (Reply.reports_alreadyInitialized _)
  · exact nofun

/-- Asking the local daemon for the live configuration keeps the cluster. -/
theorem initiateOrFetch_undisturbed {members : List Member} (hquiet : cluster.Quiet)
    (hlive : cluster.replicaSet = some live) :
    Ensures cluster (initiateOrFetch session name members)
      (fun found after => found = some live ∧ live.id = name ∧ Keeps cluster after)
      fun cause after =>
        live.id ≠ name ∧ (∃ reason, cause = .settled (.failed reason)) ∧ Keeps cluster after := by
  have hkeeps : Keeps cluster
      ((cluster.received (.initiate (.initial name members))).received (.getConfig name)) := by
    refine Keeps.trans (Keeps.received ?_) (Keeps.received ?_)
    · show "replSetInitiate" ≠ "replSetReconfig"
      decide
    · show "replSetGetConfig" ≠ "replSetReconfig"
      decide
  refine (initiateOrFetch_unfaulted (Cluster.pendingFault_of_faults_nil hquiet.faults)
    (Cluster.pendingFault_of_faults_nil hquiet.faults) hlive).mono ?_ ?_
  · rintro found after ⟨hfound, hid, rfl⟩
    exact ⟨hfound, hid, hkeeps⟩
  · rintro cause after ⟨hid, hcause, rfl⟩
    exact ⟨hid, hcause, hkeeps⟩

/-- A successor that is sent takes effect unless it has a defect. -/
theorem reconfigure_undisturbed (hquiet : cluster.Quiet) (hlive : cluster.replicaSet = some live)
    (hany : ∃ host ∈ live.hosts, cluster.unreachable.contains host = false)
    (hid : next.id = live.id) (hversion : live.version < next.version)
    (hnext : next.isSuccessorOf live = .ok true) :
    Ensures cluster (reconfigure port live next action)
      (fun outcome after => next.defect? = none ∧ outcome = .configCurrent next.version action ∧
        after.replicaSet = some next ∧ Follows cluster after)
      fun cause after => ∃ reason, next.defect? = some reason ∧
        cause = .settled (.failed ("reconfig rejected: " ++ reason)) ∧
        after.replicaSet = some live ∧ Follows cluster after := by
  refine ensures_reconfigure hnext (ensures_openAt ((yields_connectMembers _).mono ?_))
  rintro result c ⟨hprobed, hfound⟩
  obtain ⟨session, rfl⟩ := hfound hquiet hany
  have hquiet' := hprobed.quiet hquiet
  have hrun := @Cluster.Quiet.reconfig_of_live c session live next hquiet'
    (hprobed.replicaSet.trans hlive) hid hversion
  have hfollows : Follows cluster (c.run session (.reconfig next)).2.release :=
    hprobed.keeps.toFollows.trans
      ((Follows.run _ _ _).trans (Probed.release _).keeps.toFollows)
  rcases hdefect : next.defect? with - | reason <;> rw [hdefect] at hrun <;>
    obtain ⟨hreply, hafter⟩ := hrun
  · refine ensures_submit_of_reply hreply (fun _ => ⟨rfl, rfl, hafter, hfollows⟩) ?_
    intro hrefused
    cases hrefused.symm.trans Reply.isOk_success
  · refine ensures_submit_of_reply hreply ?_ fun _ => ⟨reason, rfl, rfl, hafter, hfollows⟩
    intro hok
    cases hok.symm.trans (Reply.isOk_failure _ _)

end Step

/-! ## Whole runs -/

/-- An undisturbed convergence leaves its result; unless a successor is sent, the cluster is kept.
-/
structure Leaves (desired : DesiredMembers) (live : ReplicaConfig) (before after : Cluster) : Prop
    where
  follows : Follows before after
  replicaSet : after.replicaSet = some (desired.result live)
  keeps : (∀ next action, desired.remedy live ≠ .ok (some (next, action))) → Keeps before after

namespace Leaves

variable {desired : DesiredMembers} {live : ReplicaConfig}

theorem of_kept (hkeeps : Keeps cluster c) (hlive : cluster.replicaSet = some live)
    (hnot : ∀ next action, desired.remedy live ≠ .ok (some (next, action))) :
    Leaves desired live cluster c where
  follows := hkeeps.toFollows
  replicaSet := by
    rw [hkeeps.replicaSet, hlive, DesiredMembers.result]
    split
    · next next action hsend => exact absurd hsend (hnot next action)
    · rfl
  keeps _ := hkeeps

theorem of_sent {next : ReplicaConfig} {action : ReplicaSetAction} (hfollows : Follows cluster c)
    (hsend : desired.remedy live = .ok (some (next, action)))
    (hafter : c.replicaSet = some (if next.defect?.isNone then next else live)) :
    Leaves desired live cluster c where
  follows := hfollows
  replicaSet := by rw [hafter, DesiredMembers.result, hsend]
  keeps hnot := absurd hsend (hnot next action)

end Leaves

/-- Nothing interferes, and the local daemon answers. -/
structure Cluster.Undisturbed (cluster : Cluster) (port : UInt16) : Prop extends
    Cluster.Quiet cluster where
  localhost : cluster.unreachable.contains (addressOf "localhost" port) = false

theorem Follows.undisturbed {port : UInt16} (h : Follows a b) (hundisturbed : a.Undisturbed port) :
    b.Undisturbed port where
  toQuiet := h.quiet hundisturbed.toQuiet
  localhost := h.unreachable ▸ hundisturbed.localhost

namespace Step

variable {name : String} {port : UInt16} {live : ReplicaConfig} {desired : DesiredMembers}

/-- An undisturbed convergence begins with a session at the local daemon. -/
theorem openAt_localhost {post : Session → Cluster → Prop} {halt : Halt → Cluster → Prop}
    (h : cluster.Undisturbed port)
    (hpost : ∀ session after, Keeps cluster after → post session after) :
    Ensures cluster (openAt (.localhost port)) post halt := by
  refine ensures_openAt (Yields.openSession ?_)
  rw [h.toQuiet.openSession_fst h.localhost]
  exact hpost _ _ (Probed.openSession _ _).keeps

theorem converge_undisturbed (h : cluster.Undisturbed port) (hlive : cluster.replicaSet = some live)
    (hid : live.id = name)
    (hany : (∃ next action, desired.remedy live = .ok (some (next, action))) →
      ∃ host ∈ live.hosts, cluster.unreachable.contains host = false) :
    Ensures cluster (converge port name desired)
      (fun outcome after => desired.verdict live = .ok outcome ∧ Leaves desired live cluster after)
      fun cause after =>
        desired.verdict live = .error cause ∧ Leaves desired live cluster after := by
  refine ensures_converge (openAt_localhost h fun session c hopen => ?_)
  have hfound := @initiateOrFetch_undisturbed c session name live desired.byHost
    (hopen.quiet h.toQuiet) (hopen.replicaSet.trans hlive)
  refine hfound.mono ?_ fun cause after hother => absurd hid hother.1
  rintro _ after ⟨rfl, -, hasked⟩
  have hkeeps : Keeps cluster after.release :=
    (hopen.trans hasked).trans (Probed.release after).keeps
  refine ensures_adjust ?_ ?_ ?_
  · intro hkeep
    refine ⟨by rw [DesiredMembers.verdict, hkeep], Leaves.of_kept hkeeps hlive ?_⟩
    intro next action hsend
    cases hkeep.symm.trans hsend
  · intro next action hsend
    obtain ⟨hnextId, -, hnext⟩ := DesiredMembers.isSuccessorOf_of_send hsend
    have hversion := DesiredMembers.version_lt_of_send hsend
    have hreachable := hany ⟨next, action, hsend⟩
    rw [← hkeeps.unreachable] at hreachable
    refine (reconfigure_undisturbed (hkeeps.quiet h.toQuiet) (hkeeps.replicaSet.trans hlive)
      hreachable hnextId hversion hnext).mono ?_ ?_
    · rintro outcome after' ⟨hdefect, rfl, hafter, hfollows⟩
      refine ⟨by rw [DesiredMembers.verdict, hsend]; simp only [hdefect],
        Leaves.of_sent (hkeeps.toFollows.trans hfollows) hsend ?_⟩
      rw [hafter, hdefect]
      rfl
    · rintro cause after' ⟨reason, hdefect, rfl, hafter, hfollows⟩
      refine ⟨by rw [DesiredMembers.verdict, hsend]; simp only [hdefect],
        Leaves.of_sent (hkeeps.toFollows.trans hfollows) hsend ?_⟩
      rw [hafter, hdefect]
      rfl
  · intro cause herror
    refine ⟨by rw [DesiredMembers.verdict, herror], Leaves.of_kept hkeeps hlive ?_⟩
    intro next action hsend
    cases herror.symm.trans hsend

/-- A replica set of another name stays as it is. -/
theorem converge_of_other (h : cluster.Undisturbed port) (hlive : cluster.replicaSet = some live)
    (hid : live.id ≠ name) :
    Ensures cluster (converge port name desired) (fun _ _ => False)
      fun cause after => (∃ reason, cause = .settled (.failed reason)) ∧ Keeps cluster after := by
  refine ensures_converge (openAt_localhost h fun session c hopen => ?_)
  have hfound := @initiateOrFetch_undisturbed c session name live desired.byHost
    (hopen.quiet h.toQuiet) (hopen.replicaSet.trans hlive)
  refine hfound.mono (fun found after hfound => absurd hfound.2.1 hid) ?_
  rintro cause after ⟨-, hcause, hasked⟩
  exact ⟨hcause, (hopen.trans hasked).trans (Probed.release after).keeps⟩

/-- Where there is no replica set yet, it is initiated with the desired members. -/
theorem converge_of_none (h : cluster.Undisturbed port) (hnone : cluster.replicaSet = none)
    (hdefect : (ReplicaConfig.initial name desired.byHost).defect? = none) :
    Ensures cluster (converge port name desired)
      (fun outcome after => outcome = .configCurrent initialVersion .initiated ∧
        after.replicaSet = some (.initial name desired.byHost) ∧ Follows cluster after)
      fun _ _ => False := by
  refine ensures_converge (openAt_localhost h fun session c hopen => ?_)
  obtain ⟨hreply, hafter⟩ := @Cluster.Quiet.initiate_of_none c session _
    (hopen.quiet h.toQuiet) (hopen.replicaSet.trans hnone) hdefect
  refine ensures_initiateOrFetch ?_ ?_ ?_ ?_
  · intro reply _ _
    exact ⟨rfl, hafter, hopen.toFollows.trans
      ((Follows.run _ _ _).trans (Probed.release _).keeps.toFollows)⟩
  · intro reply hrun hreports
    cases hreply.symm.trans hrun
    rw [Reply.reports, Reply.isOk_success] at hreports
    cases hreports
  · intro reply hrun hnot
    cases hreply.symm.trans hrun
    cases hnot.symm.trans Reply.isOk_success
  · intro failure hlost
    cases hreply.symm.trans hlost

end Step

/-- How a run ends when its convergence has ended. -/
def ending : Except Halt ReplicaSetOutcome → Except Abort ReplicaSetOutcome
  | .ok outcome => .ok outcome
  | .error (.settled outcome) => .ok outcome
  | .error .overflow => .error .overflow

section Runs

variable {site : Site} {port : UInt16} {solo : Bool} {name : String} {candidates : List Node}
  {live : ReplicaConfig}

/-- What the steps of a convergence ensure holds of the run. -/
theorem of_converge {post : Except Halt ReplicaSetOutcome → Cluster → Prop}
    (hcandidates : candidates ≠ [])
    (h : Ensures site.cluster (Step.converge port name (.ofCandidates candidates))
      (fun outcome c => post (.ok outcome) c) fun cause c => post (.error cause) c) :
    ∃ result, ((convergeReplicaSet port solo name candidates).run.run site).1 = ending result ∧
      post result ((convergeReplicaSet port solo name candidates).run.run site).2.cluster := by
  have hensures : Ensures site.cluster (convergeReplicaSet port solo name candidates)
      (fun outcome c => ∃ result, .ok outcome = ending result ∧ post result c)
      fun cause c => ∃ result, .error cause = ending result ∧ post result c := by
    refine ensures_convergeReplicaSet hcandidates (h.mono ?_ ?_)
    · exact fun outcome c h => ⟨.ok outcome, rfl, h⟩
    · intro cause c h
      cases cause with
      | settled outcome => exact ⟨.error (.settled outcome), rfl, h⟩
      | overflow => exact ⟨.error .overflow, rfl, h⟩
  have hrun := Yields.of_run hensures
  rcases hresult : ((convergeReplicaSet port solo name candidates).run.run site).1 with
    cause | outcome <;> rw [hresult] at hrun
  · exact hrun
  · exact hrun

/-- An undisturbed run comes to its verdict and leaves its result. -/
theorem run_undisturbed (hcandidates : candidates ≠ []) (h : site.cluster.Undisturbed port)
    (hlive : site.cluster.replicaSet = some live) (hid : live.id = name)
    (hany : (∃ next action,
        (DesiredMembers.ofCandidates candidates).remedy live = .ok (some (next, action))) →
      ∃ host ∈ live.hosts, site.cluster.unreachable.contains host = false) :
    ((convergeReplicaSet port solo name candidates).run.run site).1 =
        ending ((DesiredMembers.ofCandidates candidates).verdict live) ∧
      Leaves (.ofCandidates candidates) live site.cluster
        ((convergeReplicaSet port solo name candidates).run.run site).2.cluster := by
  have hconverge := Step.converge_undisturbed h hlive hid hany
  obtain ⟨result, hresult, hverdict, hleaves⟩ := @of_converge site port solo name candidates
    (fun result c => (DesiredMembers.ofCandidates candidates).verdict live = result ∧
      Leaves (.ofCandidates candidates) live site.cluster c) hcandidates hconverge
  exact ⟨hverdict ▸ hresult, hleaves⟩

theorem run_of_other (hcandidates : candidates ≠ []) (h : site.cluster.Undisturbed port)
    (hlive : site.cluster.replicaSet = some live) (hid : live.id ≠ name) :
    (∃ reason, ((convergeReplicaSet port solo name candidates).run.run site).1 =
        .ok (.failed reason)) ∧
      Keeps site.cluster
        ((convergeReplicaSet port solo name candidates).run.run site).2.cluster := by
  have hconverge := @Step.converge_of_other _ name port live (.ofCandidates candidates) h hlive hid
  obtain ⟨result, hresult, ⟨reason, rfl⟩, hkeeps⟩ := @of_converge site port solo name candidates
    (fun result c => (∃ reason, result = .error (.settled (.failed reason))) ∧
      Keeps site.cluster c) hcandidates (hconverge.mono (fun _ _ h => h.elim) fun cause c h =>
        ⟨h.1.imp fun _ => congrArg _, h.2⟩)
  exact ⟨⟨reason, hresult⟩, hkeeps⟩

theorem run_of_none (hcandidates : candidates ≠ []) (h : site.cluster.Undisturbed port)
    (hnone : site.cluster.replicaSet = none)
    (hdefect :
      (ReplicaConfig.initial name (DesiredMembers.ofCandidates candidates).byHost).defect? = none) :
    ((convergeReplicaSet port solo name candidates).run.run site).1 =
        .ok (.configCurrent initialVersion .initiated) ∧
      ((convergeReplicaSet port solo name candidates).run.run site).2.cluster.replicaSet =
        some (.initial name (DesiredMembers.ofCandidates candidates).byHost) ∧
      Follows site.cluster
        ((convergeReplicaSet port solo name candidates).run.run site).2.cluster := by
  have hconverge := @Step.converge_of_none _ name port (.ofCandidates candidates) h hnone hdefect
  obtain ⟨result, hresult, rfl, hafter⟩ := @of_converge site port solo name candidates
    (fun result c => result = .ok (.configCurrent initialVersion .initiated) ∧
      c.replicaSet = some (.initial name (DesiredMembers.ofCandidates candidates).byHost) ∧
      Follows site.cluster c) hcandidates (hconverge.mono (fun outcome c h =>
        ⟨congrArg _ h.1, h.2⟩) fun _ _ h => h.elim)
  exact ⟨hresult, hafter⟩

end Runs

end ClusterConvergence
