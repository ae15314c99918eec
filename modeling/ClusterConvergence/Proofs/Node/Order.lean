import ClusterConvergence.Node.Basic

/-!
# Nodes in order

Nodes are sorted in one place and selected in another.  Since nodes with the same two names keep their
order, it does not matter which of the two comes first (`Node.filter_sorted`).  The induction is on
the list: a node is put in front of all sorted nodes that it may stand before, and behind the others
(`Node.sorted_cons`).
-/

namespace ClusterConvergence

namespace Node

theorem le_iff {a b : Node} :
    a.le b = true ↔ a.name < b.name ∨ a.name = b.name ∧ a.fqdn ≤ b.fqdn := by
  simp [le]

theorem le_trans {a b c : Node} (hab : a.le b = true) (hbc : b.le c = true) : a.le c = true := by
  rw [le_iff] at hab hbc ⊢
  rcases hab with hab | ⟨hab, hfqdn⟩
  · rcases hbc with hbc | ⟨hbc, -⟩
    · exact Or.inl (String.lt_trans hab hbc)
    · exact Or.inl (hbc ▸ hab)
  · rcases hbc with hbc | ⟨hbc, hfqdn'⟩
    · exact Or.inl (hab ▸ hbc)
    · exact Or.inr ⟨hab.trans hbc, String.le_trans hfqdn hfqdn'⟩

theorem le_total (a b : Node) : (a.le b || b.le a) = true := by
  rw [Bool.or_eq_true, le_iff, le_iff]
  by_cases hlt : a.name < b.name
  · exact Or.inl (Or.inl hlt)
  · by_cases hgt : b.name < a.name
    · exact Or.inr (Or.inl hgt)
    · have hname : a.name = b.name :=
        String.le_antisymm (String.not_lt.1 hgt) (String.not_lt.1 hlt)
      rcases String.le_total a.fqdn b.fqdn with h | h
      · exact Or.inl (Or.inr ⟨hname, h⟩)
      · exact Or.inr (Or.inr ⟨hname.symm, h⟩)

@[simp] theorem sorted_nil : sorted [] = [] := by simp [sorted]

theorem mem_sorted {node : Node} {nodes : List Node} : node ∈ sorted nodes ↔ node ∈ nodes :=
  (List.mergeSort_perm nodes le).mem_iff

theorem pairwise_sorted (nodes : List Node) : (sorted nodes).Pairwise fun a b => a.le b = true :=
  @List.pairwise_mergeSort _ le (fun _ _ _ => le_trans) le_total nodes

/-- The place of a further node among sorted ones. -/
theorem exists_sorted_cons (node : Node) (nodes : List Node) :
    ∃ before after, sorted nodes = before ++ after ∧
      sorted (node :: nodes) = before ++ node :: after ∧
      (∀ other ∈ before, node.le other = false) ∧ (∀ other ∈ after, node.le other = true) := by
  obtain ⟨before, after, hcons, hsorted, hbefore⟩ :=
    @List.mergeSort_cons _ le (fun _ _ _ => le_trans) le_total node nodes
  have hpairwise := pairwise_sorted (node :: nodes)
  rw [sorted, hcons, List.pairwise_append, List.pairwise_cons] at hpairwise
  refine ⟨before, after, hsorted, hcons, fun other hmem => ?_, hpairwise.2.1.1⟩
  simpa using hbefore other hmem

/-- A further node comes behind those that it may not stand before, and no later. -/
theorem sorted_cons (node : Node) (nodes : List Node) :
    sorted (node :: nodes) =
      (sorted nodes).filter (fun other => !node.le other) ++
        node :: (sorted nodes).filter node.le := by
  obtain ⟨before, after, hsorted, hcons, hbefore, hafter⟩ := exists_sorted_cons node nodes
  have hfront : (sorted nodes).filter (fun other => !node.le other) = before := by
    rw [hsorted, List.filter_append, List.filter_eq_self.2, List.filter_eq_nil_iff.2,
      List.append_nil]
    · simpa using hafter
    · simpa using hbefore
  have hback : (sorted nodes).filter node.le = after := by
    rw [hsorted, List.filter_append, List.filter_eq_nil_iff.2, List.filter_eq_self.2,
      List.nil_append]
    · exact hafter
    · simpa using hbefore
  rw [hcons, hfront, hback]

/-- It does not matter whether nodes are selected before they are sorted or afterwards. -/
theorem filter_sorted (p : Node → Bool) (nodes : List Node) :
    (sorted nodes).filter p = sorted (nodes.filter p) := by
  induction nodes with
  | nil => simp
  | cons node nodes ih =>
    by_cases hp : p node = true
    · -- on both sides of the node, the selected ones are sorted as before
      have hside : ∀ q : Node → Bool,
          ((sorted nodes).filter q).filter p = (sorted (nodes.filter p)).filter q := by
        intro q
        rw [← ih, List.filter_filter, List.filter_filter]
        simp only [Bool.and_comm]
      rw [List.filter_cons_of_pos hp, sorted_cons, sorted_cons, List.filter_append,
        List.filter_cons_of_pos hp, hside, hside]
    · obtain ⟨before, after, hsorted, hcons, -, -⟩ := exists_sorted_cons node nodes
      rw [hsorted, List.filter_append] at ih
      rw [List.filter_cons_of_neg hp, hcons, List.filter_append, List.filter_cons_of_neg hp, ih]

end Node

end ClusterConvergence
