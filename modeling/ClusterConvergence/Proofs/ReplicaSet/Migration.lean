import Mathlib.Algebra.Group.Nat.Defs
import Mathlib.Data.List.Forall2
import ClusterConvergence.Proofs.Node.Order
import ClusterConvergence.Proofs.ReplicaSet.Remedy

/-!
# From numbers to host names

A live configuration that has the desired members by number is mended by renaming.  The new names
come from one dictionary that all candidates are put into, and of two candidates with the same
number the later one counts.  Nothing is lost by that: a number that the configuration has is always
found, and where the live hosts differ, the numbers differ as well.

Main statement: `migration_is_exact` says that the renamed configuration is a successor in which
everybody keeps id and place, and that it is the desired configuration (`Migration`).
-/

namespace ClusterConvergence

namespace ReplicaConfig

/-- `next` takes the place of `live`, with the members that the candidates make up. -/
structure Migration (live : ReplicaConfig) (candidates : List Node) (next : ReplicaConfig) : Prop
    where
  successor : next.isSuccessorOf live = .ok true
  ids : next.ids = live.ids
  /-- Place by place, a number gives way to the host of a candidate that has it. -/
  hosts : List.Forall₂
    (fun number host => ∃ node ∈ candidates, node.ipHost = number ∧ node.host = host)
    live.hosts next.hosts
  members : next.members.Perm (DesiredMembers.ofCandidates candidates).byHost
  current : (DesiredMembers.ofCandidates candidates).compare next = .current

end ReplicaConfig

namespace DesiredMembers

variable {candidates : List Node} {live next : ReplicaConfig}

theorem migration_of_renamed (hcompare : (ofCandidates candidates).compare live = .byNumber)
    (hhosts : live.hosts.Nodup)
    (hrenamed : live.renamed (ofCandidates candidates).ipToHost = .ok next) :
    live.Migration candidates next where
  successor := (isSuccessorOf_of_send (remedy_eq_send_iff.2 (Or.inl ⟨hcompare, hrenamed, rfl⟩))).2.2
  ids := ReplicaConfig.ids_of_renamed hrenamed
  hosts := by
    rw [ReplicaConfig.hosts_of_renamed hrenamed, List.forall₂_map_right_iff, List.forall₂_same]
    intro number hnumber
    obtain ⟨node, hnode, hip, hget⟩ := exists_candidate_of_byNumber hcompare hnumber
    exact ⟨node, hnode, hip, by rw [hget, Option.getD_some]⟩
  members := perm_of_renamed hcompare hrenamed hhosts
  current := compare_eq_current_iff.2 (sameMembers_iff_perm.2
    (perm_of_renamed hcompare hrenamed hhosts))

/-- If a live configuration is known by number, then none of its hosts lacks a new name.  If besides
its hosts differ and there is a next version, then renaming gives the configuration that is desired.
-/
theorem migration_is_exact (hcompare : (ofCandidates candidates).compare live = .byNumber) :
    (∀ host, live.renamed (ofCandidates candidates).ipToHost ≠ .error (.unmapped host)) ∧
    (live.hosts.Nodup → live.version.toNat < 2 ^ 64 - 1 →
      ∃ next, live.renamed (ofCandidates candidates).ipToHost = .ok next ∧
        live.Migration candidates next) := by
  constructor
  · intro host hunmapped
    obtain ⟨hhost, hnone⟩ := ReplicaConfig.of_renamed_eq_unmapped hunmapped
    obtain ⟨node, -, -, hsome⟩ := exists_candidate_of_byNumber hcompare hhost
    cases hnone.symm.trans hsome
  · intro hhosts hversion
    have hroom : live.version.toNat + 1 < UInt64.size := Nat.add_lt_of_lt_sub hversion
    obtain ⟨next, hrenamed⟩ := exists_renamed_of_byNumber hcompare hroom
    exact ⟨next, hrenamed, migration_of_renamed hcompare hhosts hrenamed⟩

/-- The number of `b` is the host name of `a`, and `b` is listed first. -/
def chainedNodes : List Node :=
  [{ name := "b", fqdn := "b.cluster", ipAddress := "10.0.0.2" },
    { name := "a", fqdn := "10.0.0.2", ipAddress := "10.0.0.1" }]

/-- Both nodes by number under the last version but one, in the other order. -/
def chainedConfig : ReplicaConfig where
  id := "rs0"
  version := 18446744073709551614
  members := [⟨1, "10.0.0.2:27017"⟩, ⟨0, "10.0.0.1:27017"⟩]

/-- Both members are renamed at once, so none of them is renamed twice. -/
theorem migration_is_exact_along_chain :
    let desired := ofCandidates chainedNodes
    let next : ReplicaConfig :=
      { id := "rs0", version := 18446744073709551615
        members := [⟨1, "b.cluster:27017"⟩, ⟨0, "10.0.0.2:27017"⟩] }
    desired.compare chainedConfig = .byNumber ∧ chainedConfig.hosts.Nodup ∧
      chainedConfig.version.toNat < 2 ^ 64 - 1 ∧
      chainedConfig.renamed desired.ipToHost = .ok next ∧
      chainedConfig.Migration chainedNodes next := by
  intro desired next
  have hsorted : Node.sorted chainedNodes = chainedNodes.reverse := by
    rw [chainedNodes, Node.sorted_cons, Node.sorted_cons, Node.sorted_nil]
    decide
  have hcompare : desired.compare chainedConfig = .byNumber := by
    simp only [desired, ofCandidates, hsorted, compare, sameMembers_eq_isPerm]
    decide +kernel
  have hhosts : chainedConfig.hosts.Nodup := by decide
  have hversion : chainedConfig.version.toNat < 2 ^ 64 - 1 := by decide
  have hnext : chainedConfig.renamed desired.ipToHost = .ok next := by
    simp only [desired, ofCandidates, hsorted]
    decide +kernel
  obtain ⟨renamed, hrenamed, hmigration⟩ := (migration_is_exact hcompare).2 hhosts hversion
  cases hnext.symm.trans hrenamed
  exact ⟨hcompare, hhosts, hversion, hnext, hmigration⟩

end DesiredMembers

end ClusterConvergence
