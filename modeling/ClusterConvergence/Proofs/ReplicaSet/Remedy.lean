import ClusterConvergence.Proofs.ReplicaSet.Comparison
import ClusterConvergence.Proofs.ReplicaSet.Successor
import ClusterConvergence.ReplicaSet.Convergence

/-!
# What is done about a live configuration

Whether a live configuration stays, or which successor is sent, depends on nothing but the desired
members and the configuration itself: `DesiredMembers.remedy`.  A configuration stays only if its
hosts are the desired ones (`hosts_of_keep`), a successor has exactly the desired hosts unless its
hosts repeat (`hosts_of_send`), and a configuration with the desired hosts stays, as long as its
numbers can be counted up (`remedy_of_same_hosts`).
-/

namespace ClusterConvergence

namespace DesiredMembers

/-- What is done about a live configuration: nothing, or a successor is sent; or else why nothing
can be done. -/
def remedy (desired : DesiredMembers) (live : ReplicaConfig) :
    Except Halt (Option (ReplicaConfig × ReplicaSetAction)) :=
  match desired.compare live with
  | .current => .ok none
  | .byNumber =>
    match live.renamed desired.ipToHost with
    | .error .overflow => .error .overflow
    | .error reason => .error (.settled (.failed reason.message))
    | .ok next => .ok (some (next, .hostnameMigration))
  | .drift =>
    match live.withHosts desired.hosts with
    | .error _ => .error .overflow
    | .ok (next, diff) => if diff.isEmpty then .ok none else .ok (some (next, .memberDiff diff))

variable {desired : DesiredMembers} {live next : ReplicaConfig} {action : ReplicaSetAction}

/-! ## Comparing -/

theorem perm_of_current (h : desired.compare live = .current) :
    live.members.Perm desired.byHost := by
  rw [compare_eq] at h
  split at h
  · next hperm => exact hperm
  · split at h <;> cases h

theorem perm_of_byNumber (h : desired.compare live = .byNumber) :
    live.members.Perm desired.byIp := by
  rw [compare_eq] at h
  split at h
  · cases h
  · split at h
    · next hperm => exact hperm
    · cases h

theorem compare_eq_current_iff :
    desired.compare live = .current ↔ sameMembers live.members desired.byHost = true := by
  rw [sameMembers_iff_perm]
  refine ⟨perm_of_current, fun h => ?_⟩
  rw [compare_eq, if_pos h]

/-! ## Sending a successor -/

/-- The successor that is sent comes from renaming or from an exchange. -/
theorem remedy_eq_send_iff :
    desired.remedy live = .ok (some (next, action)) ↔
      (desired.compare live = .byNumber ∧ live.renamed desired.ipToHost = .ok next ∧
        action = .hostnameMigration) ∨
      (desired.compare live = .drift ∧ live.HasRoom desired.hosts ∧
        (live.diff desired.hosts).isEmpty = false ∧ next = live.exchanged desired.hosts ∧
        action = .memberDiff (live.diff desired.hosts)) := by
  rw [remedy]
  rcases hcompare : desired.compare live with - | - | -
  · simp
  · rcases hrenamed : live.renamed desired.ipToHost with (_ | _) | renamed
    · simp
    · simp
    · constructor
      · rintro ⟨⟩
        exact Or.inl ⟨rfl, rfl, rfl⟩
      · rintro (⟨-, ⟨⟩, rfl⟩ | ⟨⟨⟩, -⟩)
        rfl
  · by_cases hroom : live.HasRoom desired.hosts
    · rw [ReplicaConfig.withHosts_of_hasRoom hroom]
      cases hempty : (live.diff desired.hosts).isEmpty <;> simp [hroom, hempty, eq_comm]
    · rw [ReplicaConfig.withHosts_of_not_hasRoom hroom]
      simp [hroom]

/-- Whatever is sent is a successor of the live configuration. -/
theorem isSuccessorOf_of_send (h : desired.remedy live = .ok (some (next, action))) :
    next.id = live.id ∧ next.version.toNat = live.version.toNat + 1 ∧
      next.isSuccessorOf live = .ok true := by
  have hcounts : next.id = live.id ∧ next.version.toNat = live.version.toNat + 1 := by
    rcases remedy_eq_send_iff.1 h with ⟨-, hrenamed, -⟩ | ⟨-, hroom, -, rfl, -⟩
    · obtain ⟨hid, hversion, -, -⟩ := ReplicaConfig.renamed_eq_ok_iff.1 hrenamed
      exact ⟨hid, hversion⟩
    · exact ⟨rfl, ReplicaConfig.version_exchanged hroom⟩
  obtain ⟨hid, hversion⟩ := hcounts
  refine ⟨hid, hversion, ?_⟩
  rw [ReplicaConfig.isSuccessorOf, if_pos hid, nextVersion_eq_ok_iff.2 hversion]
  exact congrArg Except.ok (beq_self_eq_true _)

theorem version_lt_of_send (h : desired.remedy live = .ok (some (next, action))) :
    live.version < next.version := by
  rw [UInt64.lt_iff_toNat_lt, (isSuccessorOf_of_send h).2.1]
  exact Nat.lt_succ_self _

theorem action_of_send (h : desired.remedy live = .ok (some (next, action))) :
    action ≠ .unchanged := by
  rcases remedy_eq_send_iff.1 h with ⟨-, -, rfl⟩ | ⟨-, -, -, -, rfl⟩ <;> exact nofun

/-- Where nothing can be done, that is a failure or a number that does not fit its width. -/
theorem cause_of_error {cause : Halt} (h : desired.remedy live = .error cause) :
    cause = .overflow ∨ ∃ reason, cause = .settled (.failed reason) := by
  rw [remedy] at h
  split at h
  · cases h
  · split at h <;> cases h
    · exact Or.inl rfl
    · exact Or.inr ⟨_, rfl⟩
  · split at h
    · cases h
      exact Or.inl rfl
    · split at h <;> cases h

/-! ## Keeping the live configuration -/

theorem remedy_eq_keep_iff :
    desired.remedy live = .ok none ↔
      desired.compare live = .current ∨
        desired.compare live = .drift ∧ live.HasRoom desired.hosts ∧
          (live.diff desired.hosts).isEmpty = true := by
  rw [remedy]
  rcases hcompare : desired.compare live with - | - | -
  · simp
  · rcases hrenamed : live.renamed desired.ipToHost with (_ | _) | renamed <;> simp
  · by_cases hroom : live.HasRoom desired.hosts
    · rw [ReplicaConfig.withHosts_of_hasRoom hroom]
      cases hempty : (live.diff desired.hosts).isEmpty <;> simp [hroom, hempty]
    · rw [ReplicaConfig.withHosts_of_not_hasRoom hroom]
      simp [hroom]

/-- A configuration that stays has the desired hosts. -/
theorem hosts_of_keep (h : desired.remedy live = .ok none) (host : String) :
    host ∈ live.hosts ↔ host ∈ desired.hosts := by
  rcases remedy_eq_keep_iff.1 h with hcurrent | ⟨-, -, hempty⟩
  · exact ((perm_of_current hcurrent).map (·.host)).mem_iff
  · exact ReplicaConfig.diff_isEmpty_iff.1 hempty host

/-- A configuration with the desired hosts stays, unless it is known by number.  Where its members
have other ids than the desired ones, a successor is prepared all the same, and the numbers that it
would need may be used up. -/
theorem remedy_of_same_hosts (hhosts : ∀ host, host ∈ live.hosts ↔ host ∈ desired.hosts)
    (hnumber : desired.compare live ≠ .byNumber) :
    desired.remedy live =
      if desired.compare live = .current ∨
        (live.freshNat < UInt32.size ∧ live.version.toNat + 1 < UInt64.size)
      then .ok none else .error .overflow := by
  have hempty := ReplicaConfig.diff_isEmpty_iff.2 hhosts
  -- nobody joins, so the next id only has to exist
  have hroom : live.HasRoom desired.hosts ↔
      live.freshNat < UInt32.size ∧ live.version.toNat + 1 < UInt64.size := by
    have hadded : (live.diff desired.hosts).added = [] := by
      rw [MemberDiff.isEmpty, Bool.and_eq_true, List.isEmpty_iff, List.isEmpty_iff] at hempty
      exact hempty.2
    rw [ReplicaConfig.HasRoom, hadded]
    rfl
  cases hcompare : desired.compare live with
  | current =>
    rw [if_pos (Or.inl rfl)]
    exact remedy_eq_keep_iff.2 (Or.inl hcompare)
  | byNumber => exact absurd hcompare hnumber
  | drift =>
    by_cases hfits : live.freshNat < UInt32.size ∧ live.version.toNat + 1 < UInt64.size
    · rw [if_pos (Or.inr hfits)]
      exact remedy_eq_keep_iff.2 (Or.inr ⟨hcompare, hroom.2 hfits, hempty⟩)
    · have hdrift : Comparison.drift ≠ .current := by decide
      rw [if_neg (not_or.2 ⟨hdrift, hfits⟩), remedy, hcompare]
      simp only [ReplicaConfig.withHosts_of_not_hasRoom (mt hroom.1 hfits)]

/-! ## The members that candidates make up -/

section Candidates

variable {candidates : List Node}

theorem sorted_perm (nodes : List Node) : (Node.sorted nodes).Perm nodes :=
  List.mergeSort_perm nodes Node.le

theorem sorted_eq_self {nodes : List Node} (h : nodes.Pairwise fun a b => Node.le a b = true) :
    Node.sorted nodes = nodes :=
  List.mergeSort_of_pairwise h

theorem hosts_ofCandidates :
    (ofCandidates candidates).hosts = (Node.sorted candidates).map Node.host :=
  Member.map_host_numbered 0 _

theorem byHost_ofCandidates :
    (ofCandidates candidates).byHost = Member.numbered 0 ((Node.sorted candidates).map Node.host) :=
  rfl

theorem byIp_ofCandidates :
    (ofCandidates candidates).byIp = Member.numbered 0 ((Node.sorted candidates).map Node.ipHost) :=
  rfl

theorem mem_hosts_ofCandidates {host : String} :
    host ∈ (ofCandidates candidates).hosts ↔ host ∈ candidates.map Node.host := by
  rw [hosts_ofCandidates]
  exact ((sorted_perm candidates).map _).mem_iff

theorem hosts_ofCandidates_ne_nil (h : candidates ≠ []) : (ofCandidates candidates).hosts ≠ [] := by
  intro hnil
  obtain ⟨node, hnode⟩ := List.exists_mem_of_ne_nil _ h
  have hmem := mem_hosts_ofCandidates.2 (List.mem_map_of_mem hnode)
  rw [hnil] at hmem
  cases hmem

/-- Numbers that differ lead every candidate from its number to its own host. -/
theorem get?_ipToHost (hips : ((Node.sorted candidates).map Node.ipHost).Nodup) {node : Node}
    (hnode : node ∈ Node.sorted candidates) :
    (ofCandidates candidates).ipToHost.get? node.ipHost = some node.host := by
  refine Dict.get?_ofList ?_ (List.mem_map_of_mem hnode)
  rw [List.map_map]
  exact hips

theorem map_under_numbered {newHost : Dict String} {n : Nat} {nodes : List Node}
    (h : ∀ node ∈ nodes, newHost.get? node.ipHost = some node.host) :
    (Member.numbered n (nodes.map Node.ipHost)).map (Member.under newHost) =
      Member.numbered n (nodes.map Node.host) := by
  induction nodes generalizing n with
  | nil => rfl
  | cons node nodes ih =>
    rw [List.forall_mem_cons] at h
    simp only [List.map_cons, Member.numbered_cons, ih h.2, Member.under, h.1, Option.getD_some]

/-- A host that is known by number has a new name, that of a candidate with this number, even if
numbers repeat. -/
theorem exists_candidate_of_byNumber (hcompare : (ofCandidates candidates).compare live = .byNumber)
    {number : String} (hnumber : number ∈ live.hosts) :
    ∃ node ∈ candidates, node.ipHost = number ∧
      (ofCandidates candidates).ipToHost.get? number = some node.host := by
  have hlisted : number ∈ (Node.sorted candidates).map Node.ipHost := by
    have hmem := ((perm_of_byNumber hcompare).map Member.host).mem_iff.1 hnumber
    rwa [byIp_ofCandidates, Member.map_host_numbered] at hmem
  have hkey : number ∈ ((Node.sorted candidates).map fun node =>
      (node.ipHost, node.host)).map (·.1) := by
    rwa [List.map_map]
  obtain ⟨found, hfound, hget⟩ := Dict.exists_get?_ofList hkey
  obtain ⟨node, hnode, heq⟩ := List.mem_map.1 hfound
  cases heq
  exact ⟨node, (sorted_perm candidates).mem_iff.1 hnode, rfl, hget⟩

/-- Members that are known by number can be renamed, as long as there is a next version. -/
theorem exists_renamed_of_byNumber (hcompare : (ofCandidates candidates).compare live = .byNumber)
    (hversion : live.version.toNat + 1 < UInt64.size) :
    ∃ next, live.renamed (ofCandidates candidates).ipToHost = .ok next := by
  have hnext : nextVersion live.version = .ok (live.version + 1) := if_pos hversion
  refine ⟨⟨live.id, live.version + 1,
    live.members.map (Member.under (ofCandidates candidates).ipToHost)⟩,
    ReplicaConfig.renamed_eq_ok_iff.2 ⟨rfl, nextVersion_eq_ok_iff.1 hnext, ?_, rfl⟩⟩
  intro number hnumber
  obtain ⟨node, -, -, hget⟩ := exists_candidate_of_byNumber hcompare hnumber
  rw [Dict.contains, hget]
  rfl

/-- Renaming members that are known by number gives the desired members, unless two of them come
under the same host. -/
theorem perm_of_renamed (hcompare : (ofCandidates candidates).compare live = .byNumber)
    (hrenamed : live.renamed (ofCandidates candidates).ipToHost = .ok next)
    (hlive : live.hosts.Nodup) : next.members.Perm (ofCandidates candidates).byHost := by
  have hperm := perm_of_byNumber hcompare
  have hips : ((Node.sorted candidates).map Node.ipHost).Nodup := by
    have hhosts := (hperm.map Member.host).nodup hlive
    rwa [byIp_ofCandidates, Member.map_host_numbered] at hhosts
  rw [(ReplicaConfig.renamed_eq_ok_iff.1 hrenamed).2.2.2]
  refine (hperm.map _).trans (List.Perm.of_eq ?_)
  exact map_under_numbered fun node hnode => get?_ipToHost hips hnode

/-- Nobody but the candidates comes into a successor. -/
theorem mem_hosts_of_send (h : (ofCandidates candidates).remedy live = .ok (some (next, action)))
    {host : String} (hhost : host ∈ next.hosts) : host ∈ (ofCandidates candidates).hosts := by
  rcases remedy_eq_send_iff.1 h with ⟨hcompare, hrenamed, -⟩ | ⟨-, -, -, rfl, -⟩
  · -- every member was known by the number of a candidate, and gets the host of one
    rw [ReplicaConfig.hosts_of_renamed hrenamed] at hhost
    obtain ⟨number, hlive, rfl⟩ := List.mem_map.1 hhost
    obtain ⟨node, hnode, -, hget⟩ := exists_candidate_of_byNumber hcompare hlive
    rw [hget, Option.getD_some, mem_hosts_ofCandidates]
    exact List.mem_map_of_mem hnode
  · exact ReplicaConfig.mem_hosts_exchanged.1 hhost

/-- The hosts of a successor are the desired ones, unless they repeat. -/
theorem hosts_of_send (h : (ofCandidates candidates).remedy live = .ok (some (next, action)))
    (hnodup : next.hosts.Nodup) (host : String) :
    host ∈ next.hosts ↔ host ∈ (ofCandidates candidates).hosts := by
  rcases remedy_eq_send_iff.1 h with ⟨hcompare, hrenamed, -⟩ | ⟨-, -, -, rfl, -⟩
  · have hlive : live.hosts.Nodup := by
      rw [ReplicaConfig.hosts_of_renamed hrenamed, List.Nodup, List.pairwise_map] at hnodup
      refine hnodup.imp ?_
      rintro a _ hne rfl
      exact hne rfl
    exact ((perm_of_renamed hcompare hrenamed hlive).map (·.host)).mem_iff
  · exact ReplicaConfig.mem_hosts_exchanged

end Candidates

end DesiredMembers

end ClusterConvergence
