import Mathlib.Data.List.Induction
import ClusterConvergence.Sharding.Spec

/-!
# The groups that nodes make up

Nodes are put into their groups one after the other.  What comes of it is described for each replica
set on its own: its group has the hosts of its nodes, each once, in the order of the nodes
(`ShardSpec.get?_groupsOf`).  So among the specs there is one for each replica set that has nodes, and
it can be told by its name, as long as there are no slashes in names and hosts
(`ShardSpec.filter_ofNodes`).
-/

namespace ClusterConvergence

/-- No character gets into an address but from the host, the colon and the digits of the port. -/
theorem not_mem_addressOf {c : Char} {host : String} (port : UInt16) (hcolon : c ≠ ':')
    (hdigit : c.isDigit = false) (h : c ∉ host.toList) : c ∉ (addressOf host port).toList := by
  have hport : c ∉ Nat.toDigits 10 port.toNat := by
    intro hmem
    have hport := Nat.isDigit_of_mem_toDigits (by decide) (by decide) hmem
    cases hdigit.symm.trans hport
  simp [addressOf, h, hcolon, hport]

namespace ShardSpec

/-! ## Groups -/

/-- The hosts of the nodes that belong to a replica set, in the order of the nodes. -/
def hostsOf (name : String) (nodes : List Node) : List String :=
  (nodes.filter fun node => node.replicaSet? == some name).map Node.host

theorem addHost_eraseDups (hosts : List String) (host : String) :
    addHost hosts.eraseDups host = (hosts ++ [host]).eraseDups := by
  rw [List.eraseDups_append, addHost]
  by_cases hmem : host ∈ hosts
  · simp [hmem, List.removeAll]
  · simp [hmem, List.removeAll, List.eraseDups_cons]

theorem groupsOf_concat (nodes : List Node) (node : Node) :
    groupsOf (nodes ++ [node]) = (groupsOf nodes).add node := by
  simp [groupsOf]

theorem hostsOf_concat (name : String) (nodes : List Node) (node : Node) :
    hostsOf name (nodes ++ [node]) =
      hostsOf name nodes ++ if node.replicaSet? = some name then [node.host] else [] := by
  by_cases h : node.replicaSet? = some name
  · simp [hostsOf, h]
  · simp [hostsOf, h]

/-- The group of a replica set has the hosts of its nodes, each once; without nodes there is none. -/
theorem get?_groupsOf (name : String) (nodes : List Node) :
    (groupsOf nodes).replicaSets.get? name =
      if hostsOf name nodes = [] then none else some (hostsOf name nodes).eraseDups := by
  induction nodes using List.reverseRecOn with
  | nil => rfl
  | append_singleton nodes node ih =>
    rw [groupsOf_concat, hostsOf_concat, Groups.add]
    rcases hset : node.replicaSet? with - | own
    · simpa using ih
    · by_cases hname : own = name
      · subst hname
        have hgroup : ((groupsOf nodes).replicaSets.get? own).getD [] =
            (hostsOf own nodes).eraseDups := by
          rw [ih]
          split
          · next hempty => simp [hempty]
          · rfl
        simp [hgroup, addHost_eraseDups]
      · simpa [Dict.get?_insert, hname] using ih

/-- Whatever is listed under a name belongs to nodes of that name. -/
theorem of_mem_replicaSets {name : String} {hosts : List String} {nodes : List Node}
    (h : (name, hosts) ∈ (groupsOf nodes).replicaSets.entries) :
    (∃ node ∈ nodes, node.replicaSet? = some name) ∧
      ∀ host ∈ hosts, ∃ node ∈ nodes, node.host = host := by
  rw [Dict.mem_entries_iff, get?_groupsOf] at h
  split at h
  · cases h
  · next hsome =>
    cases h
    constructor
    · obtain ⟨host, hmem⟩ := List.exists_mem_of_ne_nil _ hsome
      obtain ⟨node, hnode, -⟩ := List.mem_map.1 hmem
      obtain ⟨hnode, hset⟩ := List.mem_filter.1 hnode
      exact ⟨node, hnode, by simpa using hset⟩
    · intro host hmem
      obtain ⟨node, hnode, hhost⟩ := List.mem_map.1 (List.mem_eraseDups.1 hmem)
      exact ⟨node, (List.mem_filter.1 hnode).1, hhost⟩

theorem mem_addHost {hosts : List String} {host other : String}
    (h : other ∈ addHost hosts host) : other ∈ hosts ∨ other = host := by
  rw [addHost] at h
  split at h
  · exact Or.inl h
  · simpa using h

theorem of_mem_standalone {host : String} {nodes : List Node}
    (h : host ∈ (groupsOf nodes).standalone) : ∃ node ∈ nodes, node.host = host := by
  induction nodes using List.reverseRecOn with
  | nil => cases h
  | append_singleton nodes node ih =>
    have hearlier : host ∈ (groupsOf nodes).standalone →
        ∃ node' ∈ nodes ++ [node], node'.host = host := by
      intro hmem
      obtain ⟨node', hnode', hhost⟩ := ih hmem
      exact ⟨node', List.mem_append_left _ hnode', hhost⟩
    rw [groupsOf_concat, Groups.add] at h
    split at h
    · exact hearlier h
    · rcases mem_addHost h with hmem | rfl
      · exact hearlier hmem
      · exact ⟨node, by simp, rfl⟩

/-! ## Slashes -/

/-- Whether a spec is one of the replica set of a name. -/
def isOf (name spec : String) : Bool :=
  (name ++ "/").toList.isPrefixOf spec.toList

/-- What comes before the only slash is what comes before a slash. -/
theorem prefix_slash_iff {name own rest : List Char} (hown : '/' ∉ own) (hrest : '/' ∉ rest) :
    name ++ ['/'] <+: own ++ '/' :: rest ↔ own = name := by
  constructor
  · rintro ⟨tail, htail⟩
    rw [List.append_assoc, List.singleton_append] at htail
    rcases List.append_eq_append_iff.1 htail with ⟨more, hmore, hslash⟩ | ⟨more, hmore, hslash⟩
    · cases more with
      | nil => simpa using hmore
      | cons c more =>
        -- the slash behind the name would stand in the other name
        have hc : '/' = c := by simpa using congrArg List.head? hslash
        have hmem : '/' ∈ own := by
          rw [hmore, hc]
          simp
        exact absurd hmem hown
    · cases more with
      | nil => simpa using hmore.symm
      | cons c more =>
        -- it would stand behind the other slash
        have hmem : '/' ∈ rest := by
          have htails := congrArg List.tail hslash
          simp only [List.cons_append, List.tail_cons] at htails
          simp [htails]
        exact absurd hmem hrest
  · rintro rfl
    exact ⟨rest, by simp⟩

theorem mem_of_mem_intercalate {α : Type} {a : α} {sep : List α} {lists : List (List α)}
    (h : a ∈ sep.intercalate lists) : a ∈ sep ∨ ∃ l ∈ lists, a ∈ l := by
  induction lists with
  | nil => simp at h
  | cons first lists ih =>
    cases lists with
    | nil => exact Or.inr ⟨first, by simp, by simpa using h⟩
    | cons second lists =>
      simp only [List.intercalate_cons_cons, List.mem_append] at h
      rcases h with (hfirst | hsep) | hlater
      · exact Or.inr ⟨first, by simp, hfirst⟩
      · exact Or.inl hsep
      · rcases ih hlater with hsep | ⟨l, hmem, ha⟩
        · exact Or.inl hsep
        · exact Or.inr ⟨l, List.mem_cons_of_mem _ hmem, ha⟩

/-- A spec is of the replica set that it names. -/
theorem isOf_replicaSet {name own : String} {hosts : List String} (hown : '/' ∉ own.toList)
    (hhosts : ∀ host ∈ hosts, '/' ∉ host.toList) :
    isOf name (text (.replicaSet own hosts)) = (own == name) := by
  have hrest : '/' ∉ (",".intercalate hosts).toList := by
    intro hslash
    rw [String.toList_intercalate] at hslash
    rcases mem_of_mem_intercalate hslash with hcomma | ⟨l, hl, hslash⟩
    · simp at hcomma
    · obtain ⟨host, hmem, rfl⟩ := List.mem_map.1 hl
      exact hhosts host hmem hslash
  have hiff := @prefix_slash_iff name.toList _ _ hown hrest
  rw [Bool.eq_iff_iff, isOf, List.isPrefixOf_iff_prefix, beq_iff_eq, ← String.toList_inj, ← hiff]
  simp [text]

/-- A host on its own is no spec of a replica set. -/
theorem isOf_standalone {name host : String} (hhost : '/' ∉ host.toList) :
    isOf name (text (.standalone host)) = false := by
  rw [Bool.eq_false_iff, isOf, Ne, List.isPrefixOf_iff_prefix]
  intro hfront
  exact hhost (hfront.subset (by simp))

/-! ## Specs -/

/-- The spec of a replica set has the hosts of its nodes, each once, in the order of the nodes; there
is no other spec of its name, and none at all without nodes. -/
theorem filter_ofNodes {nodes : List Node}
    (hnames : ∀ node ∈ nodes, ∀ own, node.replicaSet? = some own → '/' ∉ own.toList)
    (hhosts : ∀ node ∈ nodes, '/' ∉ node.host.toList) (name : String) :
    let hosts := hostsOf name (Node.sorted nodes)
    ((ofNodes nodes).map text).filter (isOf name) =
      if hosts = [] then [] else [text (.replicaSet name hosts.eraseDups)] := by
  intro hosts
  have hnode : ∀ node ∈ Node.sorted nodes, node ∈ nodes :=
    fun node => (List.mergeSort_perm nodes Node.le).mem_iff.1
  have hgroups : (groupsOf (Node.sorted nodes)).replicaSets.entries.filter
      (fun e => isOf name (text (.replicaSet e.1 e.2))) =
      (groupsOf (Node.sorted nodes)).replicaSets.entries.filter (fun e => e.1 == name) := by
    refine List.filter_congr fun e he => ?_
    obtain ⟨⟨node, hmem, hset⟩, hmembers⟩ := of_mem_replicaSets he
    refine isOf_replicaSet (hnames node (hnode node hmem) _ hset) fun host hhost => ?_
    obtain ⟨member, hmember, rfl⟩ := hmembers host hhost
    exact hhosts member (hnode member hmember)
  have halone : (groupsOf (Node.sorted nodes)).standalone.filter
      (fun host => isOf name (text (.standalone host))) = [] := by
    refine List.filter_eq_nil_iff.2 fun host hmem => ?_
    obtain ⟨node, hsorted, rfl⟩ := of_mem_standalone hmem
    simp [isOf_standalone (hhosts node (hnode node hsorted))]
  have hspecs : ((ofNodes nodes).map text).filter (isOf name) =
      ((groupsOf (Node.sorted nodes)).replicaSets.entries.filter
        fun e => isOf name (text (.replicaSet e.1 e.2))).map
          (fun e => text (.replicaSet e.1 e.2)) ++
      ((groupsOf (Node.sorted nodes)).standalone.filter
        fun host => isOf name (text (.standalone host))).map
          (fun host => text (.standalone host)) := by
    simp [ofNodes, List.filter_map, Function.comp_def]
  rw [hspecs, hgroups, halone, Dict.filter_entries, get?_groupsOf]
  by_cases hempty : hosts = []
  · simp [hosts, hempty]
  · simp [hosts, hempty]

end ShardSpec

end ClusterConvergence
