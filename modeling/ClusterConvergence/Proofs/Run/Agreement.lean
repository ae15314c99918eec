import ClusterConvergence.Node.Daemon
import ClusterConvergence.Proofs.Node.Order
import ClusterConvergence.Proofs.ReplicaSet.Remedy
import ClusterConvergence.Proofs.Sharding.Grouping
import ClusterConvergence.Run.Settings

/-!
# The routing layer and a shard agree

A shard that is a replica set is known to two parties.  Its own daemons select their siblings, sort
them, and converge a replica set of them; the routing layer selects all nodes that hold shards, sorts
them, and groups them by the replica set to which they belong.  The routing layer must register the
shard under the very name, and with the very members, with which it is initiated.

That is so wherever the nodes that hold shards are the ones that are replicated, and the replica set
of a node follows from its shard (`router_and_shard_agree`).
-/

namespace ClusterConvergence

namespace Settings

/-- The nodes of the cluster and the environment of this node, whatever their role. -/
def scope (settings : Settings) : Query :=
  { clusterName := settings.clusterName : Query }.inEnvironment settings.environment

variable {settings : Settings} {node : Node}

theorem accepts_query (role : Role) :
    (settings.query role).accepts node = (settings.scope.accepts node && node.hasRole role) := by
  by_cases henvironment : settings.environment = ""
  · simp [query, scope, Query.inEnvironment, Query.accepts, henvironment]
  · simp [query, scope, Query.inEnvironment, Query.accepts, henvironment, Bool.and_right_comm]

theorem accepts_replicaSetQuery :
    settings.replicaSetQuery.accepts node =
      (settings.scope.accepts node && node.hasRole .replicaset && node.shard == settings.shard) := by
  rw [← accepts_query]
  by_cases henvironment : settings.environment = ""
  · simp [replicaSetQuery, query, Query.inEnvironment, Query.accepts, henvironment]
  · simp [replicaSetQuery, query, Query.inEnvironment, Query.accepts, henvironment]

end Settings

theorem replicaSetOfShard_inj {a b : String} :
    replicaSetOfShard a = replicaSetOfShard b ↔ a = b := by
  simp [replicaSetOfShard]

/-- A replicated node without a name for its replica set belongs to that of its shard. -/
theorem Node.replicaSet?_of_blank {node : Node} (hrole : node.hasRole .replicaset = true)
    (hblank : node.replicaSetName.all isBlankText = true) :
    node.replicaSet? = some (replicaSetOfShard node.shard) := by
  rw [replicaSet?, hrole, Bool.or_true, if_pos rfl]
  cases hname : node.replicaSetName with
  | none => rfl
  | some name =>
    rw [hname, Option.all_some] at hblank
    simp [hblank]

namespace Settings

/-! ## One node -/

section Node

variable {own router : Settings} {node : Node}

theorem accepts_shardQuery (hcluster : router.clusterName = own.clusterName)
    (henvironment : router.environment = own.environment) :
    router.shardQuery.accepts node = (own.scope.accepts node && node.hasRole .shard) := by
  rw [shardQuery, accepts_query, scope, scope, hcluster, henvironment]

variable (hcluster : router.clusterName = own.clusterName)
  (henvironment : router.environment = own.environment)
  (hroles : own.scope.accepts node = true →
    (node.hasRole .shard = true ↔ node.hasRole .replicaset = true))
  (hblank : own.scope.accepts node = true → node.replicaSetName.all isBlankText = true)

include hcluster henvironment hroles hblank

/-- A node that the routing layer selects belongs to the replica set of its shard. -/
theorem of_accepts_shardQuery (h : router.shardQuery.accepts node = true) :
    own.scope.accepts node = true ∧ node.hasRole .replicaset = true ∧
      node.replicaSet? = some (replicaSetOfShard node.shard) := by
  rw [accepts_shardQuery hcluster henvironment, Bool.and_eq_true] at h
  obtain ⟨hscope, hrole⟩ := h
  have hreplicated := (hroles hscope).1 hrole
  exact ⟨hscope, hreplicated, Node.replicaSet?_of_blank hreplicated (hblank hscope)⟩

/-- The routing layer puts a node into the group of a shard exactly if it is a candidate there. -/
theorem in_group_iff_candidate :
    (node.replicaSet? == some (replicaSetOfShard own.shard) &&
      router.shardQuery.accepts node) = own.replicaSetQuery.accepts node := by
  rw [accepts_replicaSetQuery]
  cases haccepted : router.shardQuery.accepts node with
  | true =>
    obtain ⟨hscope, hreplicated, hset⟩ :=
      of_accepts_shardQuery hcluster henvironment hroles hblank haccepted
    rw [hset, hscope, hreplicated, Bool.eq_iff_iff]
    simp [replicaSetOfShard_inj]
  | false =>
    rw [accepts_shardQuery hcluster henvironment] at haccepted
    cases hscope : own.scope.accepts node with
    | true =>
      rw [hscope, Bool.true_and] at haccepted
      have hreplicated := mt (hroles hscope).2 (by simp [haccepted])
      simp [hreplicated]
    | false => simp

end Node

end Settings

/-! ## All nodes -/

/-- There is no slash in an address unless there is one in the host. -/
theorem slash_not_mem_addressOf {host : String} (port : UInt16) (h : '/' ∉ host.toList) :
    '/' ∉ (addressOf host port).toList :=
  not_mem_addressOf port (by decide) (by decide) h

/-- A shard and the routing layer of its cluster select nodes with different queries and put them in
order at different times.  Let the nodes of the cluster hold shards exactly if they are replicated,
and let none of them name its replica set or have a slash in its names.  Then the routing layer
registers the shard under the name under which the shard converges, with the hosts that the shard
desires, each once and in the same order; and it registers nothing for a shard that has no
candidates. -/
theorem router_and_shard_agree (nodes : List Node) (own router : Settings) (given : Option String)
    (hown : own.replicaSet = Daemon.shard.replicaSet? true given own.shard)
    (hcluster : router.clusterName = own.clusterName)
    (henvironment : router.environment = own.environment)
    (hroles : ∀ node ∈ nodes, own.scope.accepts node = true →
      (node.hasRole .shard = true ↔ node.hasRole .replicaset = true))
    (hblank : ∀ node ∈ nodes, own.scope.accepts node = true →
      node.replicaSetName.all isBlankText = true)
    (hslash : ∀ node ∈ nodes, own.scope.accepts node = true →
      '/' ∉ node.shard.toList ∧ '/' ∉ node.fqdn.toList) :
    let candidates := nodes.filter own.replicaSetQuery.accepts
    let specs := (ShardSpec.ofNodes (nodes.filter router.shardQuery.accepts)).map ShardSpec.text
    let desired := DesiredMembers.ofCandidates candidates
    ∃ name, own.replicaSet = some name ∧ name = "rs_" ++ own.shard ∧
      specs.filter (ShardSpec.isOf name) =
        if candidates = [] then [] else [name ++ "/" ++ ",".intercalate desired.hosts.eraseDups] := by
  intro candidates specs desired
  refine ⟨replicaSetOfShard own.shard, hown, rfl, ?_⟩
  have hselected : ∀ node ∈ nodes.filter router.shardQuery.accepts,
      node ∈ nodes ∧ own.scope.accepts node = true ∧
        node.replicaSet? = some (replicaSetOfShard node.shard) := by
    intro node hmem
    obtain ⟨hnode, haccepted⟩ := List.mem_filter.1 hmem
    obtain ⟨hscope, -, hset⟩ := Settings.of_accepts_shardQuery hcluster henvironment
      (hroles node hnode) (hblank node hnode) haccepted
    exact ⟨hnode, hscope, hset⟩
  have hgroup : (nodes.filter router.shardQuery.accepts).filter
      (fun node => node.replicaSet? == some (replicaSetOfShard own.shard)) = candidates := by
    rw [List.filter_filter]
    exact List.filter_congr fun node hnode => Settings.in_group_iff_candidate hcluster henvironment
      (hroles node hnode) (hblank node hnode)
  have hhosts : ShardSpec.hostsOf (replicaSetOfShard own.shard)
      (Node.sorted (nodes.filter router.shardQuery.accepts)) = desired.hosts := by
    rw [ShardSpec.hostsOf, Node.filter_sorted, hgroup, DesiredMembers.hosts_ofCandidates]
  have hnames : ∀ node ∈ nodes.filter router.shardQuery.accepts, ∀ name,
      node.replicaSet? = some name → '/' ∉ name.toList := by
    intro node hmem name hname
    obtain ⟨hnode, hscope, hset⟩ := hselected node hmem
    cases hset.symm.trans hname
    simp [replicaSetOfShard, (hslash node hnode hscope).1]
  have haddresses : ∀ node ∈ nodes.filter router.shardQuery.accepts, '/' ∉ node.host.toList := by
    intro node hmem
    obtain ⟨hnode, hscope, -⟩ := hselected node hmem
    exact slash_not_mem_addressOf node.port (hslash node hnode hscope).2
  have hspecs := ShardSpec.filter_ofNodes hnames haddresses (replicaSetOfShard own.shard)
  rw [hhosts] at hspecs
  refine hspecs.trans ?_
  by_cases hempty : candidates = []
  · have hnobody : desired.hosts = [] := by
      simp [desired, hempty, DesiredMembers.hosts_ofCandidates]
    rw [if_pos hempty, if_pos hnobody]
  · rw [if_neg hempty, if_neg (DesiredMembers.hosts_ofCandidates_ne_nil hempty)]
    rfl

/-- Two members of one shard around one of another, and a node of another cluster that would be in
nobody's replica set. -/
def mixedNodes : List Node :=
  [{ name := "c", fqdn := "c.cluster", ipAddress := "10.0.0.3", clusterName := some "main"
     shardName := some "s1", roles := [.shard, .replicaset] },
    { name := "b", fqdn := "b.cluster", ipAddress := "10.0.0.2", clusterName := some "main"
      shardName := some "s2", replicaSetName := some " ", roles := [.replicaset, .shard] },
    { name := "a", fqdn := "a.cluster", ipAddress := "10.0.0.1", clusterName := some "main"
      shardName := some "s1", roles := [.shard, .replicaset] },
    { name := "d", fqdn := "d/cluster", ipAddress := "10.0.0.4", clusterName := some "other"
      shardName := some "s1", replicaSetName := some "rs9", roles := [.shard] }]

theorem router_and_shard_agree_on_mixed_nodes :
    let own : Settings :=
      { nodeName := "a", clusterName := some "main", daemon := .shard, shard := "s1"
        replicaSet := some "rs_s1" }
    let router : Settings := { nodeName := "m", clusterName := some "main", daemon := .mongos }
    let candidates := mixedNodes.filter own.replicaSetQuery.accepts
    let specs :=
      (ShardSpec.ofNodes (mixedNodes.filter router.shardQuery.accepts)).map ShardSpec.text
    own.replicaSet = Daemon.shard.replicaSet? true none own.shard ∧
      (∀ node ∈ mixedNodes, own.scope.accepts node = true →
        (node.hasRole .shard = true ↔ node.hasRole .replicaset = true) ∧
        node.replicaSetName.all isBlankText = true ∧
        '/' ∉ node.shard.toList ∧ '/' ∉ node.fqdn.toList) ∧
      candidates ≠ [] ∧
      specs.filter (ShardSpec.isOf "rs_s1") = ["rs_s1/a.cluster:27017,c.cluster:27017"] := by
  intro own router candidates specs
  have hown : own.replicaSet = Daemon.shard.replicaSet? true none own.shard := by decide
  have hnodes : ∀ node ∈ mixedNodes, own.scope.accepts node = true →
      (node.hasRole .shard = true ↔ node.hasRole .replicaset = true) ∧
      node.replicaSetName.all isBlankText = true ∧
      '/' ∉ node.shard.toList ∧ '/' ∉ node.fqdn.toList := by
    decide
  have hany : candidates ≠ [] := by decide
  obtain ⟨name, hname, -, hspecs⟩ := router_and_shard_agree mixedNodes own router none hown rfl rfl
    (fun node hmem hscope => (hnodes node hmem hscope).1)
    (fun node hmem hscope => (hnodes node hmem hscope).2.1)
    (fun node hmem hscope => (hnodes node hmem hscope).2.2)
  cases hname
  have hsorted : Node.sorted candidates = [mixedNodes[2], mixedNodes[0]] := by
    have hcandidates : candidates = [mixedNodes[0], mixedNodes[2]] := by decide
    rw [hcandidates, Node.sorted_cons, Node.sorted_cons, Node.sorted_nil]
    decide
  rw [if_neg hany, DesiredMembers.hosts_ofCandidates, hsorted] at hspecs
  exact ⟨hown, hnodes, hany, hspecs.trans (by decide +kernel)⟩

end ClusterConvergence
