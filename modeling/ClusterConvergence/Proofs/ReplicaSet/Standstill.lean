import Mathlib.Algebra.Group.Nat.Defs
import ClusterConvergence.Proofs.ReplicaSet.Idempotence

/-!
# Runs with nothing to change

Where the live configuration has the desired hosts already, a run asks for it and changes nothing.
Still it may fail to say so.  Unless every member stands under the number of its place, a successor
is prepared before it is known that none is needed, and a successor takes the next version and the
next id, whether or not they exist.

Main statement: `says_unchanged_iff` tells exactly when a run comes to its outcome here.  One session
is enough for that, so connections may be limited.
-/

namespace ClusterConvergence

open Activity

/-- The local daemon was asked to initiate a replica set and for its live configuration; nothing
else was said, and the live configuration is still there. -/
structure Asked (before : Cluster) (name : String) (desired : DesiredMembers) (live : ReplicaConfig)
    (after : Cluster) : Prop where
  commands : after.commands =
    before.commands ++ [.initiate (.initial name desired.byHost), .getConfig name]
  replicaSet : after.replicaSet = some live

/-- What an undisturbed convergence comes to where the hosts are the desired ones. -/
theorem DesiredMembers.verdict_of_same_hosts {desired : DesiredMembers} {live : ReplicaConfig}
    (hhosts : ∀ host, host ∈ live.hosts ↔ host ∈ desired.hosts)
    (hnumber : desired.compare live ≠ .byNumber) :
    desired.verdict live =
      if desired.compare live = .current ∨
        live.freshNat < UInt32.size ∧ live.version.toNat + 1 < UInt64.size
      then .ok (.configCurrent live.version .unchanged) else .error .overflow := by
  rw [verdict, remedy_of_same_hosts hhosts hnumber]
  by_cases hkeep : desired.compare live = .current ∨
      live.freshNat < UInt32.size ∧ live.version.toNat + 1 < UInt64.size
  · rw [if_pos hkeep, if_pos hkeep]
  · rw [if_neg hkeep, if_neg hkeep]

namespace Step

/-- Where no successor is called for, two questions are asked, and that is all. -/
theorem converge_unsent {cluster : Cluster} {port : UInt16} {name : String} {live : ReplicaConfig}
    {desired : DesiredMembers} (hfaults : cluster.faults = [])
    (haccepts : cluster.accepts (addressOf "localhost" port) = true)
    (hlive : cluster.replicaSet = some live) (hid : live.id = name)
    (hunsent : ∀ next action, desired.remedy live ≠ .ok (some (next, action))) :
    Ensures cluster (converge port name desired)
      (fun outcome after =>
        desired.verdict live = .ok outcome ∧ Asked cluster name desired live after)
      fun cause after =>
        desired.verdict live = .error cause ∧ Asked cluster name desired live after := by
  refine ensures_converge (ensures_openAt (Yields.openSession ?_))
  rw [Cluster.openSession_of_accepts haccepts]
  have hopened : (cluster.openSession (addressOf "localhost" port)).2.faults = [] := by
    rw [Cluster.openSession_faults, hfaults]
  have hlive' : (cluster.openSession (addressOf "localhost" port)).2.replicaSet = some live := by
    rw [Cluster.openSession_replicaSet, hlive]
  refine (initiateOrFetch_unfaulted (Cluster.pendingFault_of_faults_nil hopened)
    (Cluster.pendingFault_of_faults_nil hopened) hlive').mono ?_ fun _ _ h => absurd hid h.1
  rintro _ after ⟨rfl, -, rfl⟩
  have hasked : Asked cluster name desired live
      (((cluster.openSession (addressOf "localhost" port)).2.received
        (.initiate (.initial name desired.byHost))).received (.getConfig name)).release := by
    refine ⟨?_, hlive'⟩
    show (cluster.openSession (addressOf "localhost" port)).2.commands ++ _ ++ _ = _
    rw [Cluster.openSession_commands, List.append_assoc]
    rfl
  refine ensures_adjust ?_ ?_ ?_
  · exact fun hkeep => ⟨by rw [DesiredMembers.verdict, hkeep], hasked⟩
  · exact fun next action hsend => absurd hsend (hunsent next action)
  · exact fun cause herror => ⟨by rw [DesiredMembers.verdict, herror], hasked⟩

end Step

section Runs

variable {site : Site} {port : UInt16} {solo : Bool} {name : String} {candidates : List Node}
  {live : ReplicaConfig}

theorem run_of_same_hosts (hcandidates : candidates ≠ []) (hfaults : site.cluster.faults = [])
    (haccepts : site.cluster.accepts (addressOf "localhost" port) = true)
    (hlive : site.cluster.replicaSet = some live) (hid : live.id = name)
    (hhosts : ∀ host, host ∈ live.hosts ↔ host ∈ candidates.map Node.host)
    (hnumber : (DesiredMembers.ofCandidates candidates).compare live ≠ .byNumber) :
    ((convergeReplicaSet port solo name candidates).run.run site).1 =
        (if (DesiredMembers.ofCandidates candidates).compare live = .current ∨
          live.freshNat < UInt32.size ∧ live.version.toNat + 1 < UInt64.size
        then .ok (.configCurrent live.version .unchanged) else .error .overflow) ∧
      Asked site.cluster name (.ofCandidates candidates) live
        ((convergeReplicaSet port solo name candidates).run.run site).2.cluster := by
  have hsame : ∀ host, host ∈ live.hosts ↔ host ∈ (DesiredMembers.ofCandidates candidates).hosts :=
    fun host => (hhosts host).trans DesiredMembers.mem_hosts_ofCandidates.symm
  have hunsent : ∀ next action,
      (DesiredMembers.ofCandidates candidates).remedy live ≠ .ok (some (next, action)) := by
    intro next action hsend
    rw [DesiredMembers.remedy_of_same_hosts hsame hnumber] at hsend
    split at hsend <;> cases hsend
  obtain ⟨result, hresult, hverdict, hasked⟩ := @of_converge site port solo name candidates
    (fun result c => (DesiredMembers.ofCandidates candidates).verdict live = result ∧
      Asked site.cluster name (.ofCandidates candidates) live c)
    hcandidates (Step.converge_unsent hfaults haccepts hlive hid hunsent)
  refine ⟨hresult.trans ?_, hasked⟩
  rw [← hverdict, DesiredMembers.verdict_of_same_hosts hsame hnumber, apply_ite ending]
  rfl

/-- Where the live configuration has the hosts of the candidates and does not know them by number, a
run asks two questions and leaves everything as it is, whatever its version and ids.  It says that
nothing was changed exactly if each member stands under the number of its place, or the version and
every id in use have a next one; otherwise it ends with an overflow. -/
theorem says_unchanged_iff (hcandidates : candidates ≠ []) (hfaults : site.cluster.faults = [])
    (haccepts : site.cluster.accepts (addressOf "localhost" port) = true)
    (hlive : site.cluster.replicaSet = some live) (hid : live.id = name)
    (hhosts : ∀ host, host ∈ live.hosts ↔ host ∈ candidates.map Node.host)
    (hnumber : (DesiredMembers.ofCandidates candidates).compare live ≠ .byNumber) :
    let desired := DesiredMembers.ofCandidates candidates
    let run := (convergeReplicaSet port solo name candidates).run.run site
    run.2.cluster.replicaSet = some live ∧
      run.2.cluster.commands =
        site.cluster.commands ++ [.initiate (.initial name desired.byHost), .getConfig name] ∧
      (run.1 = .ok (.configCurrent live.version .unchanged) ↔
        live.members.Perm desired.byHost ∨
          live.version.toNat < 2 ^ 64 - 1 ∧ ∀ m ∈ live.members, m.id.toNat < 2 ^ 32 - 1) ∧
      (run.1 ≠ .ok (.configCurrent live.version .unchanged) → run.1 = .error .overflow) := by
  intro desired run
  obtain ⟨hanswer, hasked⟩ :=
    @run_of_same_hosts _ _ solo _ _ _ hcandidates hfaults haccepts hlive hid hhosts hnumber
  have hfits : (desired.compare live = .current ∨
      live.freshNat < UInt32.size ∧ live.version.toNat + 1 < UInt64.size) ↔
      live.members.Perm desired.byHost ∨
        live.version.toNat < 2 ^ 64 - 1 ∧ ∀ m ∈ live.members, m.id.toNat < 2 ^ 32 - 1 := by
    rw [DesiredMembers.compare_eq_current_iff, sameMembers_iff_perm,
      ← ReplicaConfig.freshNat_le_iff]
    show _ ∨ _ < 2 ^ 32 ∧ _ < 2 ^ 64 ↔ _
    refine or_congr_right ?_
    omega
  refine ⟨hasked.replicaSet, hasked.commands, ?_, ?_⟩
  · rw [← hfits, hanswer]
    split
    · next hkeep => exact iff_of_true rfl hkeep
    · next hkeep => exact iff_of_false nofun hkeep
  · rw [hanswer]
    split
    · exact fun hne => absurd rfl hne
    · exact fun _ => rfl

end Runs

/-- Two members under the ids 7 and 2^32 - 2; the version is the last one but one. -/
def sparseConfig : ReplicaConfig where
  id := "rs0"
  version := 18446744073709551614
  members := [⟨4294967294, "b.cluster:27017"⟩, ⟨7, "a.cluster:27017"⟩]

/-- Only the local daemon answers, and only one connection can be opened. -/
def lonelySite : Site where
  cluster :=
    { replicaSet := some sparseConfig
      unreachable := NameSet.ofNames ["a.cluster:27017", "b.cluster:27017"]
      budget := some 1 }

theorem says_unchanged_iff_at_limits :
    let run := (convergeReplicaSet 27017 true "rs0" twoNodes).run.run lonelySite
    twoNodes ≠ [] ∧ lonelySite.cluster.faults = [] ∧
      lonelySite.cluster.accepts (addressOf "localhost" 27017) = true ∧
      lonelySite.cluster.replicaSet = some sparseConfig ∧ sparseConfig.id = "rs0" ∧
      (∀ host, host ∈ sparseConfig.hosts ↔ host ∈ twoNodes.map Node.host) ∧
      (DesiredMembers.ofCandidates twoNodes).compare sparseConfig ≠ .byNumber ∧
      run.1 = .ok (.configCurrent 18446744073709551614 .unchanged) := by
  intro run
  have hne : twoNodes ≠ [] := List.cons_ne_nil _ _
  have haccepts : lonelySite.cluster.accepts (addressOf "localhost" 27017) = true := by
    decide +kernel
  have hhosts : sparseConfig.hosts.Perm (twoNodes.map Node.host) := by decide +kernel
  have hnumber : (DesiredMembers.ofCandidates twoNodes).compare sparseConfig ≠ .byNumber := by
    simp only [DesiredMembers.ofCandidates, sorted_twoNodes, DesiredMembers.compare,
      sameMembers_eq_isPerm]
    decide +kernel
  have hnext : sparseConfig.version.toNat < 2 ^ 64 - 1 ∧
      ∀ m ∈ sparseConfig.members, m.id.toNat < 2 ^ 32 - 1 := by
    decide
  obtain ⟨-, -, hanswer, -⟩ := @says_unchanged_iff lonelySite 27017 true "rs0" twoNodes sparseConfig
    hne rfl haccepts rfl rfl (fun _ => hhosts.mem_iff) hnumber
  exact ⟨hne, rfl, haccepts, rfl, rfl, fun _ => hhosts.mem_iff, hnumber, hanswer.2 (Or.inr hnext)⟩

/-- Two members, one of them under the last id of all. -/
def lastIdConfig : ReplicaConfig where
  id := "rs0"
  members := [⟨0, "a.cluster:27017"⟩, ⟨4294967295, "b.cluster:27017"⟩]

/-- There is nothing to change, but the last id has no next one. -/
theorem nothing_to_change_overflows :
    let run := (convergeReplicaSet 27017 false "rs0" twoNodes).run.run (siteOf lastIdConfig)
    twoNodes ≠ [] ∧ (siteOf lastIdConfig).cluster.faults = [] ∧
      (siteOf lastIdConfig).cluster.accepts (addressOf "localhost" 27017) = true ∧
      (siteOf lastIdConfig).cluster.replicaSet = some lastIdConfig ∧ lastIdConfig.id = "rs0" ∧
      (∀ host, host ∈ lastIdConfig.hosts ↔ host ∈ twoNodes.map Node.host) ∧
      (DesiredMembers.ofCandidates twoNodes).compare lastIdConfig ≠ .byNumber ∧
      run.1 = .error .overflow := by
  intro run
  have hhosts : lastIdConfig.hosts.Perm (twoNodes.map Node.host) := by decide +kernel
  have hnumber : (DesiredMembers.ofCandidates twoNodes).compare lastIdConfig ≠ .byNumber := by
    simp only [DesiredMembers.ofCandidates, sorted_twoNodes, DesiredMembers.compare,
      sameMembers_eq_isPerm]
    decide +kernel
  have hne : twoNodes ≠ [] := List.cons_ne_nil _ _
  have haccepts : (siteOf lastIdConfig).cluster.accepts (addressOf "localhost" 27017) = true := rfl
  refine ⟨hne, rfl, haccepts, rfl, rfl, fun _ => hhosts.mem_iff, hnumber, ?_⟩
  obtain ⟨hanswer, -⟩ := @run_of_same_hosts (siteOf lastIdConfig) 27017 false "rs0" twoNodes
    lastIdConfig hne rfl haccepts rfl rfl (fun _ => hhosts.mem_iff) hnumber
  refine hanswer.trans (if_neg ?_)
  simp only [DesiredMembers.compare_eq_current_iff, sameMembers_eq_isPerm,
    DesiredMembers.byHost_ofCandidates, sorted_twoNodes]
  decide +kernel

end ClusterConvergence
