import ClusterConvergence.Proofs.Node.Order
import ClusterConvergence.ReplicaSet.Convergence
import ClusterConvergence.Sharding.Spec

/-!
# The order of discovery

Nodes come in whatever order the inventory lists them.  Everything that is computed from them begins
by putting them in order, so it does not depend on that order as long as the two names that are
compared tell the nodes apart (`Node.sorted_of_perm`); a node may be listed twice.  Nothing weaker
will do: of two different nodes with the same names, the one that is listed first stays first
(`Node.sorted_forgets_order_iff`).

Main statement: `discovery_order_does_not_matter`.
-/

namespace ClusterConvergence

namespace Node

variable {nodes nodes' : List Node}

theorem names_eq_of_le {a b : Node} (hab : a.le b = true) (hba : b.le a = true) :
    a.name = b.name ∧ a.fqdn = b.fqdn := by
  rw [le_iff] at hab hba
  rcases hab with hlt | ⟨hname, hfqdn⟩
  · rcases hba with hgt | ⟨hname, -⟩
    · exact absurd (String.lt_trans hlt hgt) (String.lt_irrefl _)
    · exact absurd (hname ▸ hlt) (String.lt_irrefl _)
  · rcases hba with hgt | ⟨-, hfqdn'⟩
    · exact absurd (hname ▸ hgt) (String.lt_irrefl _)
    · exact ⟨hname, String.le_antisymm hfqdn hfqdn'⟩

/-- Nodes that are told apart by their two names are put in order in one way only. -/
theorem sorted_of_perm (hperm : nodes.Perm nodes')
    (hnames : ∀ a ∈ nodes, ∀ b ∈ nodes, a.name = b.name → a.fqdn = b.fqdn → a = b) :
    sorted nodes = sorted nodes' := by
  refine List.Perm.eq_of_pairwise ?_ (pairwise_sorted nodes) (pairwise_sorted nodes')
    ((List.mergeSort_perm nodes le).trans (hperm.trans (List.mergeSort_perm nodes' le).symm))
  intro a b ha hb hab hba
  obtain ⟨hname, hfqdn⟩ := names_eq_of_le hab hba
  exact hnames a (mem_sorted.1 ha) b (hperm.mem_iff.2 (mem_sorted.1 hb)) hname hfqdn

/-- Nodes with the same two names are left as they are. -/
theorem sorted_of_same_names {name fqdn : String}
    (h : ∀ node ∈ nodes, node.name = name ∧ node.fqdn = fqdn) : sorted nodes = nodes := by
  refine List.mergeSort_of_pairwise (List.pairwise_of_forall_mem_list ?_)
  intro a ha b hb
  obtain ⟨rfl, rfl⟩ := h a ha
  obtain ⟨hname, hfqdn⟩ := h b hb
  exact le_iff.2 (Or.inr ⟨hname.symm, hfqdn ▸ String.le_refl _⟩)

/-- It does not matter in which order nodes are listed exactly if no two different ones have the same
names. -/
theorem sorted_forgets_order_iff (nodes : List Node) :
    (∀ nodes', nodes.Perm nodes' → sorted nodes' = sorted nodes) ↔
      ∀ a ∈ nodes, ∀ b ∈ nodes, a.name = b.name → a.fqdn = b.fqdn → a = b := by
  constructor
  · intro hforgets a ha b hb hname hfqdn
    refine Decidable.byContradiction fun hne => ?_
    have hb' : b ∈ nodes.erase a := (List.mem_erase_of_ne (Ne.symm hne)).2 hb
    have hperm : nodes.Perm (a :: b :: (nodes.erase a).erase b) :=
      (List.perm_cons_erase ha).trans ((List.perm_cons_erase hb').cons a)
    have hsorted := (hforgets _ hperm).trans (hforgets _ (hperm.trans (.swap b a _))).symm
    -- among the nodes of these names, the one that is listed first stays first
    let same : Node → Bool := fun node => node.name == a.name && node.fqdn == a.fqdn
    have hkept : ∀ l : List Node, (sorted l).filter same = l.filter same := by
      intro l
      rw [filter_sorted]
      refine @sorted_of_same_names _ a.name a.fqdn fun node hmem => ?_
      simpa [same] using (List.mem_filter.1 hmem).2
    have hsame : same a = true ∧ same b = true := by simp [same, hname, hfqdn]
    have hlisted := congrArg (List.filter same) hsorted
    rw [hkept, hkept, List.filter_cons_of_pos hsame.1, List.filter_cons_of_pos hsame.2,
      List.filter_cons_of_pos hsame.2] at hlisted
    exact hne (List.cons.inj hlisted).1
  · exact fun hnames nodes' hperm => (sorted_of_perm hperm hnames).symm

end Node

/-- Nodes that come in another order make up the same members and the same shards, and a convergence
does the same with them, whatever the cluster is like and whatever faults wait in it: it has the same
outcome and leaves the same cluster, and the same journal.  The two names shall tell the nodes
apart. -/
theorem discovery_order_does_not_matter (nodes nodes' : List Node) (hperm : nodes.Perm nodes')
    (hnames : ∀ a ∈ nodes, ∀ b ∈ nodes, a.name = b.name → a.fqdn = b.fqdn → a = b) :
    DesiredMembers.ofCandidates nodes = DesiredMembers.ofCandidates nodes' ∧
    ShardSpec.ofNodes nodes = ShardSpec.ofNodes nodes' ∧
    ∀ port solo name (site : Site),
      (convergeReplicaSet port solo name nodes).run.run site =
        (convergeReplicaSet port solo name nodes').run.run site := by
  have hsorted := Node.sorted_of_perm hperm hnames
  have hdesired : DesiredMembers.ofCandidates nodes = DesiredMembers.ofCandidates nodes' := by
    rw [DesiredMembers.ofCandidates, DesiredMembers.ofCandidates, hsorted]
  refine ⟨hdesired, ?_, ?_⟩
  · rw [ShardSpec.ofNodes, ShardSpec.ofNodes, hsorted]
  · intro port solo name site
    rw [convergeReplicaSet, convergeReplicaSet, hperm.isEmpty_eq, hdesired]

/-- The second node is listed twice. -/
theorem discovery_order_does_not_matter_for_repeated_node :
    let a : Node := { name := "a", fqdn := "a.cluster", ipAddress := "10.0.0.1" }
    let b : Node := { name := "b", fqdn := "b.cluster", ipAddress := "10.0.0.2" }
    [b, a, b].Perm [a, b, b] ∧
    (∀ x ∈ [b, a, b], ∀ y ∈ [b, a, b], x.name = y.name → x.fqdn = y.fqdn → x = y) ∧
    ∀ site : Site, (convergeReplicaSet 27017 false "rs0" [b, a, b]).run.run site =
      (convergeReplicaSet 27017 false "rs0" [a, b, b]).run.run site := by
  intro a b
  have hperm : [b, a, b].Perm [a, b, b] := .swap a b [b]
  have hnames : ∀ x ∈ [b, a, b], ∀ y ∈ [b, a, b], x.name = y.name → x.fqdn = y.fqdn → x = y := by
    decide
  exact ⟨hperm, hnames,
    (discovery_order_does_not_matter [b, a, b] [a, b, b] hperm hnames).2.2 27017 false "rs0"⟩

end ClusterConvergence
