import ClusterConvergence.Proofs.ReplicaSet.Undisturbed

/-!
# Running twice

The first undisturbed run leaves a configuration with exactly the desired hosts, on whichever of its
ways it goes.  The second one finds nothing to do.  Still it may fail to say so: unless the members
stand under the numbers of their places, it prepares a successor before it sees that none is needed,
and the last version of all has no successor (`converges_and_stays`).
-/

namespace ClusterConvergence

/-- No two candidates share a host, and none has the number of another one for its host. -/
structure Separate (candidates : List Node) : Prop where
  hosts : (candidates.map Node.host).Nodup
  numbers : ∀ a ∈ candidates, ∀ b ∈ candidates, a ≠ b → a.ipHost ≠ b.host

namespace DesiredMembers

variable {candidates : List Node} {live next : ReplicaConfig} {action : ReplicaSetAction}

theorem nodup_hosts (hsep : Separate candidates) : (ofCandidates candidates).hosts.Nodup := by
  rw [hosts_ofCandidates]
  exact ((sorted_perm candidates).map _).symm.nodup hsep.hosts

theorem length_hosts : (ofCandidates candidates).hosts.length = candidates.length := by
  rw [hosts_ofCandidates, List.length_map, (sorted_perm candidates).length_eq]

/-! ## A configuration with the desired hosts -/

/-- Members that are known by number and yet have the desired hosts are the desired members. -/
theorem not_byNumber_of_hosts (hsep : Separate candidates)
    (hhosts : ∀ host, host ∈ live.hosts ↔ host ∈ (ofCandidates candidates).hosts) :
    (ofCandidates candidates).compare live ≠ .byNumber := by
  intro hcompare
  have hperm := perm_of_byNumber hcompare
  -- the number of a candidate is the host of some candidate, and that can only be the same one
  have hsame :
      (Node.sorted candidates).map Node.ipHost = (Node.sorted candidates).map Node.host := by
    refine List.map_congr_left fun node hnode => ?_
    have hnumber : node.ipHost ∈ live.hosts := by
      refine (hperm.map Member.host).mem_iff.2 ?_
      rw [byIp_ofCandidates, Member.map_host_numbered]
      exact List.mem_map_of_mem hnode
    rw [hhosts, mem_hosts_ofCandidates] at hnumber
    obtain ⟨other, hother, hhost⟩ := List.mem_map.1 hnumber
    have hcandidate := (sorted_perm candidates).mem_iff.1 hnode
    refine Decidable.byContradiction fun hne => ?_
    refine hsep.numbers node hcandidate other hother ?_ hhost.symm
    rintro rfl
    exact hne hhost.symm
  have hcurrent : sameMembers live.members (ofCandidates candidates).byHost = true := by
    rw [sameMembers_iff_perm, byHost_ofCandidates, ← hsame, ← byIp_ofCandidates]
    exact hperm
  cases hcompare.symm.trans (compare_eq_current_iff.2 hcurrent)

/-- A configuration with the desired hosts stays.  What stands in the way is the next version, which
is not needed. -/
theorem remedy_of_hosts (hsep : Separate candidates)
    (hhosts : ∀ host, host ∈ live.hosts ↔ host ∈ (ofCandidates candidates).hosts)
    (hfresh : live.freshNat < UInt32.size) :
    (ofCandidates candidates).remedy live =
      if sameMembers live.members (ofCandidates candidates).byHost = true ∨
        live.version.toNat + 1 < UInt64.size then .ok none else .error .overflow := by
  rw [remedy_of_same_hosts hhosts (not_byNumber_of_hosts hsep hhosts)]
  simp only [compare_eq_current_iff, hfresh, true_and]

/-! ## The way there -/

/-- Where the numbers have room, a valid configuration stays or has a valid successor, and all ids
in use can be counted up. -/
theorem remedy_of_room (hcandidates : candidates ≠ []) (hsep : Separate candidates)
    (hlive : live.defect? = none) (hversion : live.version.toNat + 1 < UInt64.size)
    (hids : live.freshNat + candidates.length < UInt32.size) :
    (ofCandidates candidates).remedy live = .ok none ∨
      ∃ next action, (ofCandidates candidates).remedy live = .ok (some (next, action)) ∧
        next.defect? = none ∧ next.freshNat < UInt32.size := by
  obtain ⟨hne, hnodupIds, hnodupHosts⟩ := ReplicaConfig.defect?_eq_none_iff.1 hlive
  have hadded : (live.diff (ofCandidates candidates).hosts).added.length ≤ candidates.length := by
    rw [← length_hosts]
    exact ReplicaConfig.nodup_added.length_le_of_subset fun host hhost =>
      (ReplicaConfig.mem_added.1 hhost).1
  have hroom : live.HasRoom (ofCandidates candidates).hosts := ⟨by omega, hversion⟩
  cases hcompare : (ofCandidates candidates).compare live with
  | current => exact Or.inl (remedy_eq_keep_iff.2 (Or.inl hcompare))
  | byNumber =>
    obtain ⟨next, hrenamed⟩ := exists_renamed_of_byNumber hcompare hversion
    have hperm := perm_of_renamed hcompare hrenamed hnodupHosts
    refine Or.inr ⟨next, .hostnameMigration,
      remedy_eq_send_iff.2 (Or.inl ⟨hcompare, hrenamed, rfl⟩), ?_, ?_⟩
    · refine ReplicaConfig.defect?_eq_none_iff.2 ⟨?_, ?_, ?_⟩
      · rw [(ReplicaConfig.renamed_eq_ok_iff.1 hrenamed).2.2.2, ne_eq, List.map_eq_nil_iff]
        exact hne
      · rw [ReplicaConfig.ids_of_renamed hrenamed]
        exact hnodupIds
      · exact (hperm.map Member.host).symm.nodup (nodup_hosts hsep)
    · have hfresh : next.freshNat = live.freshNat := by
        rw [ReplicaConfig.freshNat, ReplicaConfig.maxId?, ReplicaConfig.ids_of_renamed hrenamed]
        rfl
      omega
  | drift =>
    cases hempty : (live.diff (ofCandidates candidates).hosts).isEmpty with
    | true => exact Or.inl (remedy_eq_keep_iff.2 (Or.inr ⟨hcompare, hroom, hempty⟩))
    | false =>
      refine Or.inr ⟨_, _, remedy_eq_send_iff.2 (Or.inr ⟨hcompare, hroom, hempty, rfl, rfl⟩),
        ReplicaConfig.defect?_exchanged hroom (hosts_ofCandidates_ne_nil hcandidates) hnodupIds
          hnodupHosts, ?_⟩
      have hle := ReplicaConfig.freshNat_exchanged_le hroom
      omega

/-- Where the numbers have room, an undisturbed convergence leads to the desired hosts. -/
theorem result_of_room (hcandidates : candidates ≠ []) (hsep : Separate candidates)
    (hlive : live.defect? = none) (hversion : live.version.toNat + 1 < UInt64.size)
    (hids : live.freshNat + candidates.length < UInt32.size) :
    (∃ action, (ofCandidates candidates).verdict live =
        .ok (.configCurrent ((ofCandidates candidates).result live).version action)) ∧
      ((ofCandidates candidates).result live).id = live.id ∧
      ((ofCandidates candidates).result live).freshNat < UInt32.size ∧
      ∀ host, host ∈ ((ofCandidates candidates).result live).hosts ↔
        host ∈ (ofCandidates candidates).hosts := by
  rcases remedy_of_room hcandidates hsep hlive hversion hids with
    hkeep | ⟨next, action, hsend, hdefect, hfresh⟩
  · have hresult : (ofCandidates candidates).result live = live := by rw [result, hkeep]
    rw [hresult, verdict, hkeep]
    exact ⟨⟨_, rfl⟩, rfl, by omega, hosts_of_keep hkeep⟩
  · have hresult : (ofCandidates candidates).result live = next := by
      rw [result, hsend]
      simp only [hdefect, Option.isNone_none, if_true]
    have hnodup := (ReplicaConfig.defect?_eq_none_iff.1 hdefect).2.2
    rw [hresult, verdict, hsend]
    simp only [hdefect]
    exact ⟨⟨action, rfl⟩, (isSuccessorOf_of_send hsend).1, hfresh, hosts_of_send hsend hnodup⟩

/-- The members with which a replica set is initiated are a valid configuration. -/
theorem initial_of_room (hcandidates : candidates ≠ []) (hsep : Separate candidates) (name : String)
    (hlength : candidates.length < UInt32.size) :
    (ReplicaConfig.initial name (ofCandidates candidates).byHost).defect? = none ∧
      (ReplicaConfig.initial name (ofCandidates candidates).byHost).freshNat < UInt32.size := by
  have hfit : 0 + ((Node.sorted candidates).map Node.host).length ≤ UInt32.size := by
    rw [← hosts_ofCandidates, length_hosts]
    omega
  have hlt : ∀ id ∈ (ReplicaConfig.initial name (ofCandidates candidates).byHost).ids,
      id.toNat < candidates.length := by
    intro id hid
    obtain ⟨m, hm, rfl⟩ := List.mem_map.1 hid
    have hbound := (Member.id_of_mem_numbered hfit hm).2
    rwa [← hosts_ofCandidates, length_hosts, Nat.zero_add] at hbound
  refine ⟨ReplicaConfig.defect?_eq_none_iff.2 ⟨?_, ?_, nodup_hosts hsep⟩, ?_⟩
  · intro hnil
    refine hosts_ofCandidates_ne_nil hcandidates ?_
    rw [hosts]
    exact List.map_eq_nil_iff.2 hnil
  · exact Member.nodup_ids_numbered hfit
  · have hle := ReplicaConfig.freshNat_le hlt
    omega

end DesiredMembers

section Runs

variable {site : Site} {port : UInt16} {solo : Bool} {name : String} {candidates : List Node}

/-- Whether a live configuration, or the lack of one, leaves room for one more convergence. -/
def Startable (cluster : Cluster) (name : String) (candidates : List Node) : Prop :=
  match cluster.replicaSet with
  | none => candidates.length < UInt32.size
  | some live => live.id = name ∧ live.members ≠ [] ∧ live.ids.Nodup ∧ live.hosts.Nodup ∧
    (∃ host ∈ live.hosts, cluster.unreachable.contains host = false) ∧
    live.version.toNat + 1 < UInt64.size ∧
    ∀ id ∈ live.ids, id.toNat + candidates.length + 1 < UInt32.size

/-- A configuration that has arrived: it has the desired hosts, and its ids can be counted up. -/
structure Arrived (cluster : Cluster) (name : String) (candidates : List Node)
    (live : ReplicaConfig) : Prop where
  replicaSet : cluster.replicaSet = some live
  id : live.id = name
  fresh : live.freshNat < UInt32.size
  hosts : ∀ host, host ∈ live.hosts ↔ host ∈ (DesiredMembers.ofCandidates candidates).hosts

/-- The first run arrives, on whichever way. -/
theorem arrives (hcandidates : candidates ≠ []) (hsep : Separate candidates)
    (h : site.cluster.Undisturbed port) (hstart : Startable site.cluster name candidates) :
    ∃ live action,
      ((convergeReplicaSet port solo name candidates).run.run site).1 =
        .ok (.configCurrent live.version action) ∧
      Arrived ((convergeReplicaSet port solo name candidates).run.run site).2.cluster name
        candidates live ∧
      Follows site.cluster
        ((convergeReplicaSet port solo name candidates).run.run site).2.cluster := by
  rw [Startable] at hstart
  split at hstart
  · next hnone =>
    obtain ⟨hdefect, hfresh⟩ := DesiredMembers.initial_of_room hcandidates hsep name hstart
    obtain ⟨hresult, hafter, hfollows⟩ := @run_of_none _ _ solo _ _ hcandidates h hnone hdefect
    exact ⟨_, .initiated, hresult, ⟨hafter, rfl, hfresh, fun _ => Iff.rfl⟩, hfollows⟩
  · next live hlive =>
    obtain ⟨hid, hmembers, hids, hhosts, hany, hversion, hbound⟩ := hstart
    have hdefect := ReplicaConfig.defect?_eq_none_iff.2 ⟨hmembers, hids, hhosts⟩
    have hroom : live.freshNat + candidates.length < UInt32.size := by
      obtain ⟨m, hm⟩ := List.exists_mem_of_ne_nil _ hmembers
      have hsome := hbound m.id (List.mem_map_of_mem hm)
      have hle : live.freshNat ≤ UInt32.size - candidates.length - 1 :=
        ReplicaConfig.freshNat_le fun id hid => by
          have := hbound id hid
          omega
      omega
    obtain ⟨⟨action, hverdict⟩, hresultId, hfresh, hresultHosts⟩ :=
      DesiredMembers.result_of_room hcandidates hsep hdefect hversion hroom
    obtain ⟨hresult, hleaves⟩ :=
      @run_undisturbed _ _ solo _ _ _ hcandidates h hlive hid fun _ => hany
    rw [hverdict] at hresult
    exact ⟨_, action, hresult, ⟨hleaves.replicaSet, hresultId.trans hid, hfresh, hresultHosts⟩,
      hleaves.follows⟩

/-- Once arrived, a run keeps everything.  It says so, or it stumbles over the version that it does
not need. -/
theorem stays {live : ReplicaConfig} (hcandidates : candidates ≠ []) (hsep : Separate candidates)
    (h : site.cluster.Undisturbed port) (harrived : Arrived site.cluster name candidates live) :
    ((convergeReplicaSet port solo name candidates).run.run site).1 =
        (if sameMembers live.members (DesiredMembers.ofCandidates candidates).byHost = true ∨
          live.version.toNat + 1 < UInt64.size
        then .ok (.configCurrent live.version .unchanged) else .error .overflow) ∧
      Keeps site.cluster
        ((convergeReplicaSet port solo name candidates).run.run site).2.cluster := by
  have hremedy := DesiredMembers.remedy_of_hosts hsep harrived.hosts harrived.fresh
  have hnot : ∀ next action,
      (DesiredMembers.ofCandidates candidates).remedy live ≠ .ok (some (next, action)) := by
    intro next action hsend
    rw [hremedy] at hsend
    split at hsend <;> cases hsend
  obtain ⟨hresult, hleaves⟩ := @run_undisturbed _ _ solo _ _ _ hcandidates h harrived.replicaSet
    harrived.id fun ⟨next, action, hsend⟩ => absurd hsend (hnot next action)
  refine ⟨?_, hleaves.keeps hnot⟩
  rw [hresult, DesiredMembers.verdict, hremedy]
  by_cases hroom : sameMembers live.members (DesiredMembers.ofCandidates candidates).byHost = true ∨
      live.version.toNat + 1 < UInt64.size
  · rw [if_pos hroom, if_pos hroom]
    rfl
  · rw [if_neg hroom, if_neg hroom]
    rfl

/-- The first undisturbed run says that the configuration is current and leaves one with exactly the
hosts of the candidates.  The second run changes nothing and sends no successor; it says so exactly
if the members stand under the numbers of their places or there is one more version, and stops with
an overflow otherwise. -/
theorem converges_and_stays (hcandidates : candidates ≠ []) (hsep : Separate candidates)
    (h : site.cluster.Undisturbed port) (hstart : Startable site.cluster name candidates) :
    let first := (convergeReplicaSet port solo name candidates).run.run site
    let second := (convergeReplicaSet port solo name candidates).run.run first.2
    ∃ live action, first.1 = .ok (.configCurrent live.version action) ∧
      first.2.cluster.replicaSet = some live ∧
      (∀ host, host ∈ live.hosts ↔ host ∈ candidates.map Node.host) ∧
      second.2.cluster.replicaSet = some live ∧
      second.2.cluster.count "replSetReconfig" = first.2.cluster.count "replSetReconfig" ∧
      (second.1 = .ok (.configCurrent live.version .unchanged) ↔
        sameMembers live.members (DesiredMembers.ofCandidates candidates).byHost = true ∨
          live.version.toNat + 1 < UInt64.size) ∧
      (second.1 ≠ .ok (.configCurrent live.version .unchanged) → second.1 = .error .overflow) := by
  intro first second
  obtain ⟨live, action, hfirst, harrived, hfollows⟩ :=
    @arrives site port solo name candidates hcandidates hsep h hstart
  obtain ⟨hsecond, hkeeps⟩ := @stays first.2 port solo name candidates live hcandidates hsep
    (hfollows.undisturbed h) harrived
  refine ⟨live, action, hfirst, harrived.replicaSet, ?_, ?_, hkeeps.count, ?_, ?_⟩
  · exact fun host => (harrived.hosts host).trans DesiredMembers.mem_hosts_ofCandidates
  · exact hkeeps.replicaSet.trans harrived.replicaSet
  · rw [hsecond]
    split
    · next hroom => exact iff_of_true rfl hroom
    · next hroom => exact iff_of_false nofun hroom
  · rw [hsecond]
    split
    · exact fun hne => absurd rfl hne
    · exact fun _ => rfl

end Runs

/-- Two nodes, `a` and `b`. -/
def twoNodes : List Node :=
  [{ name := "a", fqdn := "a.cluster", ipAddress := "10.0.0.1" },
    { name := "b", fqdn := "b.cluster", ipAddress := "10.0.0.2" }]

theorem separate_twoNodes : Separate twoNodes := by
  constructor <;> decide +kernel

theorem sorted_twoNodes : Node.sorted twoNodes = twoNodes :=
  DesiredMembers.sorted_eq_self (by decide)

/-- Nothing interferes with this site; it has a live configuration. -/
def siteOf (live : ReplicaConfig) : Site where
  cluster := { replicaSet := some live }

theorem undisturbed_siteOf (live : ReplicaConfig) (port : UInt16) :
    (siteOf live).cluster.Undisturbed port :=
  ⟨⟨rfl, rfl⟩, rfl⟩

/-- Both nodes are known by number. -/
def byNumber : ReplicaConfig :=
  { id := "rs0", version := 6, members := [⟨0, "10.0.0.1:27017"⟩, ⟨1, "10.0.0.2:27017"⟩] }

theorem startable_byNumber : Startable (siteOf byNumber).cluster "rs0" twoNodes := by
  have hbound : ∀ id ∈ byNumber.ids, id.toNat + twoNodes.length + 1 < UInt32.size :=
    List.forall_mem_cons.2 ⟨by decide, List.forall_mem_cons.2 ⟨by decide, nofun⟩⟩
  exact ⟨rfl, nofun, by decide, by decide, ⟨_, List.mem_cons_self, rfl⟩, by decide, hbound⟩

theorem converges_and_stays_by_number :
    let first := (convergeReplicaSet 27017 false "rs0" twoNodes).run.run (siteOf byNumber)
    let second := (convergeReplicaSet 27017 false "rs0" twoNodes).run.run first.2
    twoNodes ≠ [] ∧ Separate twoNodes ∧ (siteOf byNumber).cluster.Undisturbed 27017 ∧
      Startable (siteOf byNumber).cluster "rs0" twoNodes ∧
      first.1 = .ok (.configCurrent 7 .hostnameMigration) ∧
      second.1 = .ok (.configCurrent 7 .unchanged) := by
  intro first second
  have hne : twoNodes ≠ [] := nofun
  have hfirst : first.1 = .ok (.configCurrent 7 .hostnameMigration) := by
    refine eq_ok_of_toOption ?_
    simp only [first, convergeReplicaSet, DesiredMembers.ofCandidates, sorted_twoNodes,
      Step.converge, Step.adjust, DesiredMembers.compare, sameMembers_eq_isPerm]
    decide +kernel
  obtain ⟨live, action, hcurrent, -, -, -, -, hsays, -⟩ := @converges_and_stays (siteOf byNumber)
    27017 false "rs0" twoNodes hne separate_twoNodes (undisturbed_siteOf _ _) startable_byNumber
  have heq := hcurrent.symm.trans hfirst
  rw [Except.ok.injEq, ReplicaSetOutcome.configCurrent.injEq] at heq
  rw [heq.1] at hsays
  refine ⟨hne, separate_twoNodes, undisturbed_siteOf _ _, startable_byNumber, hfirst, ?_⟩
  exact hsays.2 (Or.inr (by decide))

/-- A member has left, and the version is the last but one. -/
def lastButOne : ReplicaConfig :=
  { id := "rs0", version := 18446744073709551614
    members := [⟨0, "a.cluster:27017"⟩, ⟨4, "z.cluster:27017"⟩] }

theorem startable_lastButOne : Startable (siteOf lastButOne).cluster "rs0" twoNodes := by
  have hbound : ∀ id ∈ lastButOne.ids, id.toNat + twoNodes.length + 1 < UInt32.size :=
    List.forall_mem_cons.2 ⟨by decide, List.forall_mem_cons.2 ⟨by decide, nofun⟩⟩
  exact ⟨rfl, nofun, by decide, by decide, ⟨_, List.mem_cons_self, rfl⟩, by decide, hbound⟩

/-- The first run uses up the last version and gives `b` the id 5 instead of that of its place.
There is nothing left to do for the second run, and still it ends with an overflow. -/
theorem second_run_overflows :
    let first := (convergeReplicaSet 27017 false "rs0" twoNodes).run.run (siteOf lastButOne)
    let second := (convergeReplicaSet 27017 false "rs0" twoNodes).run.run first.2
    twoNodes ≠ [] ∧ Separate twoNodes ∧ (siteOf lastButOne).cluster.Undisturbed 27017 ∧
      Startable (siteOf lastButOne).cluster "rs0" twoNodes ∧
      first.2.cluster.replicaSet = some
        { id := "rs0", version := 18446744073709551615
          members := [⟨0, "a.cluster:27017"⟩, ⟨5, "b.cluster:27017"⟩] } ∧
      second.1 = .error .overflow := by
  intro first second
  have hne : twoNodes ≠ [] := nofun
  have hafter : first.2.cluster.replicaSet = some
      { id := "rs0", version := 18446744073709551615
        members := [⟨0, "a.cluster:27017"⟩, ⟨5, "b.cluster:27017"⟩] } := by
    simp only [first, convergeReplicaSet, DesiredMembers.ofCandidates, sorted_twoNodes,
      Step.converge, Step.adjust, DesiredMembers.compare, sameMembers_eq_isPerm]
    decide +kernel
  refine ⟨hne, separate_twoNodes, undisturbed_siteOf _ _, startable_lastButOne, hafter, ?_⟩
  obtain ⟨live, action, -, harrived, hfollows⟩ := @arrives (siteOf lastButOne) 27017 false "rs0"
    twoNodes hne separate_twoNodes (undisturbed_siteOf _ _) startable_lastButOne
  obtain ⟨hsecond, -⟩ := @stays first.2 27017 false "rs0" twoNodes live hne separate_twoNodes
    (hfollows.undisturbed (undisturbed_siteOf _ _)) harrived
  have hlive := harrived.replicaSet.symm.trans hafter
  refine hsecond.trans (if_neg ?_)
  cases hlive
  rw [sameMembers_eq_isPerm, DesiredMembers.byHost_ofCandidates, sorted_twoNodes]
  decide

end ClusterConvergence
