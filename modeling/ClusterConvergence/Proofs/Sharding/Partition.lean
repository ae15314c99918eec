import ClusterConvergence.Proofs.Node.Order
import ClusterConvergence.Proofs.ReplicaSet.Successor
import ClusterConvergence.Proofs.Sharding.Grouping

/-!
# Specs are read back

Nodes are put into groups one after the other, and each group becomes one text.  Nothing is lost on
the way.  What the groups are can be said without following the nodes (`ShardSpec.ofNodes_eq`): there
is one for each name that a node resolves to, with the hosts of the nodes of that name, and the nodes
that resolve to none are on their own.  And a text says which group it came from
(`ShardSpec.ofText_text`): its first slash ends the name, and commas stand between the hosts.

A slash in the name of a group, or a comma in a host, would be taken for one of these.  Main
statement: `specs_partition_nodes`.
-/

namespace ClusterConvergence

namespace ShardSpec

/-! ## Reading a spec -/

/-- Read a spec.  What stands in front of the first slash is the name of a replica set, and behind it
are its hosts with commas between them; a text without a slash is a host. -/
def ofText (text : String) : ShardSpec :=
  let cs := text.toList
  if cs.contains '/' then
    .replicaSet (String.ofList (cs.takeWhile (· != '/')))
      (((cs.dropWhile (· != '/')).tail.splitOn ',').map String.ofList)
  else .standalone text

/-- A spec that can be told by its text. -/
inductive Readable : ShardSpec → Prop where
  | standalone {host : String} (hhost : '/' ∉ host.toList) : Readable (.standalone host)
  | replicaSet {name : String} {hosts : List String} (hname : '/' ∉ name.toList)
    (hany : hosts ≠ []) (hhosts : ∀ host ∈ hosts, ',' ∉ host.toList) :
    Readable (.replicaSet name hosts)

theorem toList_text_replicaSet (name : String) (hosts : List String) :
    (text (.replicaSet name hosts)).toList =
      name.toList ++ '/' :: [','].intercalate (hosts.map String.toList) := by
  simp [text, String.toList_intercalate]

/-- A spec that is readable is read back from its text. -/
theorem ofText_text {spec : ShardSpec} (h : spec.Readable) : ofText spec.text = spec := by
  cases h with
  | @standalone host hhost => simp [ofText, text, hhost]
  | @replicaSet name hosts hname hany hhosts =>
    have hfront : ∀ c ∈ name.toList, (c != '/') = true := by
      intro c hc
      exact bne_iff_ne.2 fun heq => hname (heq ▸ hc)
    have hsplit : ([','].intercalate (hosts.map String.toList)).splitOn ',' =
        hosts.map String.toList := by
      refine List.splitOn_intercalate ',' ?_ (by simpa using hany)
      simpa using hhosts
    rw [ofText, toList_text_replicaSet]
    simp [List.takeWhile_append_of_pos hfront, List.dropWhile_append_of_pos hfront, hsplit,
      Function.comp_def]

@[simp] theorem isReplicaSet_replicaSet (name : String) (hosts : List String) :
    isReplicaSet (.replicaSet name hosts) = true := by
  simp [isReplicaSet, toList_text_replicaSet]

/-- The slash in the spec of a replica set is the only one to be found. -/
theorem isReplicaSet_standalone {host : String} (h : Readable (.standalone host)) :
    isReplicaSet (.standalone host) = false := by
  cases h with
  | standalone hhost => simpa [isReplicaSet, text] using hhost

/-! ## The groups as lists -/

/-- The hosts of the nodes that are in no replica set, in the order of the nodes. -/
def aloneOf (nodes : List Node) : List String :=
  (nodes.filter fun node => node.replicaSet?.isNone).map Node.host

variable {nodes : List Node} {name : String}

theorem aloneOf_concat (nodes : List Node) (node : Node) :
    aloneOf (nodes ++ [node]) =
      aloneOf nodes ++ if node.replicaSet?.isNone then [node.host] else [] := by
  by_cases h : node.replicaSet? = none
  · simp [aloneOf, h]
  · simp [aloneOf, h]

/-- The hosts on their own are those of the nodes in no replica set, each once. -/
theorem standalone_groupsOf (nodes : List Node) :
    (groupsOf nodes).standalone = (aloneOf nodes).eraseDups := by
  induction nodes using List.reverseRecOn with
  | nil => rfl
  | append_singleton nodes node ih =>
    rw [groupsOf_concat, aloneOf_concat, Groups.add]
    rcases hset : node.replicaSet? with - | own
    · simpa [ih] using addHost_eraseDups (aloneOf nodes) node.host
    · simpa using ih

theorem hostsOf_ne_nil_iff :
    hostsOf name nodes ≠ [] ↔ ∃ node ∈ nodes, node.replicaSet? = some name := by
  simp [hostsOf]

theorem eraseDups_ne_nil {hosts : List String} (h : hosts ≠ []) : hosts.eraseDups ≠ [] := by
  obtain ⟨host, hmem⟩ := List.exists_mem_of_ne_nil hosts h
  exact List.ne_nil_of_mem (List.mem_eraseDups.2 hmem)

theorem mem_names_iff :
    name ∈ (groupsOf nodes).replicaSets.keys ↔ ∃ node ∈ nodes, node.replicaSet? = some name := by
  rw [Dict.mem_keys_iff, ← hostsOf_ne_nil_iff, get?_groupsOf]
  by_cases hempty : hostsOf name nodes = []
  · simp [hempty]
  · simp [hempty]

/-- The groups are those of the names, each with the hosts of its nodes. -/
theorem entries_groupsOf (nodes : List Node) :
    (groupsOf nodes).replicaSets.entries =
      (groupsOf nodes).replicaSets.keys.map fun name => (name, (hostsOf name nodes).eraseDups) := by
  rw [Dict.keys, List.map_map]
  refine (List.map_id _).symm.trans (List.map_congr_left ?_)
  rintro ⟨name, hosts⟩ hmem
  rw [Dict.mem_entries_iff, get?_groupsOf] at hmem
  split at hmem
  · cases hmem
  · cases hmem
    rfl

/-- The specs of nodes, described without following the nodes. -/
theorem ofNodes_eq (nodes : List Node) :
    ofNodes nodes =
      (groupsOf (Node.sorted nodes)).replicaSets.keys.map
        (fun name => .replicaSet name (hostsOf name (Node.sorted nodes)).eraseDups) ++
      (aloneOf (Node.sorted nodes)).eraseDups.map .standalone := by
  rw [ofNodes, entries_groupsOf, standalone_groupsOf, List.map_map]
  rfl

theorem nodup_ofNodes (nodes : List Node) : (ofNodes nodes).Nodup := by
  have hnames : (groupsOf (Node.sorted nodes)).replicaSets.keys.Nodup :=
    (Dict.pairwise_keys _).imp String.ne_of_lt
  have halone : (aloneOf (Node.sorted nodes)).eraseDups.Nodup := nodup_eraseDups _
  rw [ofNodes_eq, List.nodup_append]
  refine ⟨?_, ?_, ?_⟩
  · exact List.Pairwise.map _ (fun a b hne heq => hne (ShardSpec.replicaSet.inj heq).1) hnames
  · exact List.Pairwise.map _ (fun a b hne heq => hne (ShardSpec.standalone.inj heq)) halone
  · simp

/-- If there is no slash in a name, and none and no comma in a host, every spec can be told by its
text. -/
theorem readable_of_mem_ofNodes
    (hfqdn : ∀ node ∈ nodes, '/' ∉ node.fqdn.toList ∧ ',' ∉ node.fqdn.toList)
    (hname : ∀ node ∈ nodes, ∀ name, node.replicaSet? = some name → '/' ∉ name.toList)
    {spec : ShardSpec} (hspec : spec ∈ ofNodes nodes) : spec.Readable := by
  rw [ofNodes_eq, List.mem_append, List.mem_map, List.mem_map] at hspec
  rcases hspec with ⟨name, hmem, rfl⟩ | ⟨host, hmem, rfl⟩
  · have hany : ∃ node ∈ Node.sorted nodes, node.replicaSet? = some name := mem_names_iff.1 hmem
    refine .replicaSet ?_ (eraseDups_ne_nil (hostsOf_ne_nil_iff.2 hany)) ?_
    · obtain ⟨node, hsorted, hset⟩ := hany
      exact hname node (Node.mem_sorted.1 hsorted) name hset
    · intro host hhost
      obtain ⟨node, hfiltered, rfl⟩ := List.mem_map.1 (List.mem_eraseDups.1 hhost)
      have hmember := Node.mem_sorted.1 (List.mem_filter.1 hfiltered).1
      exact not_mem_addressOf node.port (by decide) (by decide) (hfqdn node hmember).2
  · obtain ⟨node, hfiltered, rfl⟩ := List.mem_map.1 (List.mem_eraseDups.1 hmem)
    have hmember := Node.mem_sorted.1 (List.mem_filter.1 hfiltered).1
    exact .standalone (not_mem_addressOf node.port (by decide) (by decide) (hfqdn node hmember).1)

end ShardSpec

open ShardSpec

/-- No host is lost among the specs of nodes, none is repeated and none gets into another group, and
all that can be read from their texts.  The texts are different.  Read back, they name the replica
sets first, in strictly ascending order, each that a node resolves to, with the hosts of the nodes
that resolve to it, each once, in the order of the nodes; and then the nodes that resolve to none,
each host once.  The first ones, and no others, are taken for replica sets. -/
theorem specs_partition_nodes (nodes : List Node)
    (hfqdn : ∀ node ∈ nodes, '/' ∉ node.fqdn.toList ∧ ',' ∉ node.fqdn.toList)
    (hname : ∀ node ∈ nodes, ∀ name, node.replicaSet? = some name → '/' ∉ name.toList) :
    let ordered := Node.sorted nodes
    let specs := ofNodes nodes
    (specs.map text).Nodup ∧
    ∃ names : List String, names.Pairwise (· < ·) ∧
      (∀ name, name ∈ names ↔ ∃ node ∈ nodes, node.replicaSet? = some name) ∧
      (specs.map fun spec => ofText spec.text) =
        names.map (fun name => .replicaSet name (hostsOf name ordered).eraseDups) ++
          (aloneOf ordered).eraseDups.map .standalone ∧
      specs.map isReplicaSet =
        names.map (fun _ => true) ++ (aloneOf ordered).eraseDups.map fun _ => false := by
  intro ordered specs
  have hreadable : ∀ spec ∈ specs, spec.Readable :=
    fun _ => readable_of_mem_ofNodes hfqdn hname
  have hread : (specs.map fun spec => ofText spec.text) = specs :=
    (List.map_congr_left fun spec hspec => ofText_text (hreadable spec hspec)).trans
      (List.map_id specs)
  have hspecs : specs = _ := ofNodes_eq nodes
  refine ⟨?_, (groupsOf ordered).replicaSets.keys, Dict.pairwise_keys _, ?_, ?_, ?_⟩
  · -- two specs with one text would be read back as one
    have hback : ((specs.map text).map ofText).Nodup := by
      rw [List.map_map]
      exact hread.symm ▸ nodup_ofNodes nodes
    exact List.Pairwise.of_map ofText (fun a b hne heq => hne (congrArg ofText heq)) hback
  · intro name
    rw [mem_names_iff]
    simp only [ordered, Node.mem_sorted]
  · exact hread.trans hspecs
  · have halone : ∀ host ∈ (aloneOf ordered).eraseDups, isReplicaSet (.standalone host) = false := by
      intro host hmem
      refine isReplicaSet_standalone (hreadable _ ?_)
      rw [hspecs]
      exact List.mem_append_right _ (List.mem_map_of_mem hmem)
    rw [hspecs, List.map_append, List.map_map, List.map_map]
    refine congrArg₂ (· ++ ·) (List.map_congr_left fun name _ => ?_) (List.map_congr_left halone)
    exact isReplicaSet_replicaSet name _

/-- Two nodes of one replica set, one of them listed twice, one that is in the replica set of its
shard, and one on its own that goes by two names. -/
def scatteredNodes : List Node :=
  [{ name := "s", fqdn := "s.cluster", ipAddress := "10.0.0.9" },
    { name := "r3", fqdn := "r3.cluster", ipAddress := "10.0.0.3", shardName := some "b"
      inReplicaSet := true },
    { name := "r2", fqdn := "r2.cluster", ipAddress := "10.0.0.2", replicaSetName := some "rs_a"
      inReplicaSet := true },
    { name := "r1", fqdn := "r1.cluster", ipAddress := "10.0.0.1", replicaSetName := some "rs_a"
      roles := [.replicaset] },
    { name := "r2", fqdn := "r2.cluster", ipAddress := "10.0.0.2", replicaSetName := some "rs_a"
      inReplicaSet := true },
    { name := "t", fqdn := "s.cluster", ipAddress := "10.0.0.9" }]

theorem specs_partition_scattered_nodes :
    (∀ node ∈ scatteredNodes, '/' ∉ node.fqdn.toList ∧ ',' ∉ node.fqdn.toList) ∧
    (∀ node ∈ scatteredNodes, ∀ name, node.replicaSet? = some name → '/' ∉ name.toList) ∧
    ((ofNodes scatteredNodes).map text).Nodup ∧
    (ofNodes scatteredNodes).map text =
      ["rs_a/r1.cluster:27017,r2.cluster:27017", "rs_b/r3.cluster:27017", "s.cluster:27017"] := by
  have hfqdn : ∀ node ∈ scatteredNodes, '/' ∉ node.fqdn.toList ∧ ',' ∉ node.fqdn.toList := by decide
  have hname : ∀ node ∈ scatteredNodes, ∀ name, node.replicaSet? = some name → '/' ∉ name.toList := by
    decide
  obtain ⟨hnodup, -⟩ := specs_partition_nodes scatteredNodes hfqdn hname
  have hsorted : Node.sorted scatteredNodes =
      [scatteredNodes[3], scatteredNodes[2], scatteredNodes[4], scatteredNodes[1],
        scatteredNodes[0], scatteredNodes[5]] := by
    simp only [scatteredNodes, Node.sorted_cons, Node.sorted_nil]
    decide
  refine ⟨hfqdn, hname, hnodup, ?_⟩
  rw [ofNodes, hsorted]
  decide +kernel

end ClusterConvergence
