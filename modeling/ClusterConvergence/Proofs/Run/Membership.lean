import ClusterConvergence.Proofs.ReplicaSet.Transcript
import ClusterConvergence.Proofs.ReplicaSet.Undisturbed
import ClusterConvergence.Proofs.Run.Checks

/-!
# Who is put into the replica set

The candidates for the replica set of a node are listed by cluster, environment, role and shard.  A
run puts their hosts into the replica set, and nobody else's (`Run.adds_iff`), and a plan lists the
same hosts (`Plan.lists_iff`).

A node can be assigned to a replica set by name, and the query does not look at that name.  So a
candidate that was assigned to another replica set is put into this one as well.
`joins_only_its_own_iff` says which inventories keep replica sets apart.
-/

namespace ClusterConvergence

open Activity

/-- Whether a node may be put into a replica set: it was not assigned to another one.  A blank name
assigns it to none, and blanks around a name do not matter. -/
def Node.mayJoin (node : Node) (name : String) : Bool :=
  node.replicaSetName.all fun assigned => isBlankText assigned || trim assigned == trim name

/-- Among the nodes there is one with this host that may be put into the replica set. -/
def MayJoin (nodes : List Node) (name host : String) : Prop :=
  ∃ node ∈ nodes, node.host = host ∧ node.mayJoin name = true

instance (nodes : List Node) (name host : String) : Decidable (MayJoin nodes name host) :=
  inferInstanceAs (Decidable (∃ node ∈ nodes, node.host = host ∧ node.mayJoin name = true))

/-- Some run, whatever it finds and whatever happens to it, sends a configuration of which this host
is a member. -/
def Run.Adds (settings : Settings) (discovery : Discovery) (host : String) : Prop :=
  ∃ (runId : String) (site : Site) (sent : List AdminCommand) (config : ReplicaConfig),
    ((execute runId settings discovery).run site).2.cluster.commands =
      site.cluster.commands ++ sent ∧
    (.initiate config ∈ sent ∨ .reconfig config ∈ sent) ∧ host ∈ config.hosts

/-- The plan lists this host as a member. -/
def Plan.Lists (settings : Settings) (discovery : Discovery) (host : String) : Prop :=
  ∃ (journal : Journal) (plan : Plan) (planned : PlannedReplicaSet),
    ((make settings discovery).run.run journal).1 = .ok plan ∧
      plan.replicaSet = some planned ∧ host ∈ planned.members.map Member.host

section Hosts

variable {text : String} {config : Config} {name : String} {nodes : List Node}

/-- On a node with a replica set, a run leaves what its convergence leaves. -/
theorem Run.leaves_of_convergence (hparse : Config.parse text = .ok config)
    (hname : config.settings.replicaSet = some name) {post : Cluster → Prop} {runId : String}
    {site : Site}
    (h : Ensures site.cluster (convergeReplicaSet config.settings.port config.settings.solo name
      (config.candidates nodes)) (fun _ c => post c) fun _ c => post c) :
    post ((execute runId config.settings { nodes := nodes }).run site).2.cluster := by
  obtain ⟨collections, hparsed⟩ := (Config.accepted_of_parse hparse).collections
  refine Ensures.leaves (ensures_execute (ensures_phases_of_other ?_ ?_ ?_))
  · exact Config.isRouter_of_replicaSet hname
  · intro cause hmalformed
    cases hmalformed.symm.trans hparsed
  · intro _ _
    refine ensures_convergeOwn ?_ ?_ ?_
    · intro hnone
      cases hnone.symm.trans hname
    · intro _ _ cause hrefused
      cases hrefused
    · intro own hown listed hlisted
      cases hown.symm.trans hname
      cases hlisted
      exact h

theorem Run.execute_said (hparse : Config.parse text = .ok config)
    (hname : config.settings.replicaSet = some name) (nodes : List Node) (runId : String)
    (site : Site) :
    Said site.cluster
      (Converging (Mute site.cluster config.settings.port (config.candidates nodes)) name
        (.ofCandidates (config.candidates nodes)))
      ((execute runId config.settings { nodes := nodes }).run site).2.cluster :=
  leaves_of_convergence hparse hname (convergeReplicaSet_said site.cluster _ _ _ _)

/-- A host is put into the replica set by some run exactly if it is that of a candidate. -/
theorem Run.adds_iff (hparse : Config.parse text = .ok config)
    (hname : config.settings.replicaSet = some name) {host : String} :
    Adds config.settings { nodes := nodes } host ↔
      host ∈ (config.candidates nodes).map Node.host := by
  rw [← DesiredMembers.mem_hosts_ofCandidates]
  constructor
  · rintro ⟨runId, site, sent, sentConfig, hlog, hsent, hhost⟩
    obtain ⟨exchanges, hdialogue, hshape⟩ := execute_said hparse hname nodes runId site
    obtain rfl : sent = exchanges.map Exchange.command :=
      List.append_cancel_left (hlog.symm.trans hdialogue.commands)
    rcases hsent with hinitiate | hreconfig
    · cases hshape.eq_initial hinitiate
      exact hhost
    · obtain ⟨_, _, _, _, _, -, -, -, -, hsend⟩ := hshape.before_reconfig hreconfig
      exact DesiredMembers.mem_hosts_of_send hsend hhost
  · intro hhost
    -- on a cluster where nothing has happened yet, all of them are put in
    obtain ⟨exchanges, hdialogue, hshape⟩ := execute_said hparse hname nodes "" {}
    have htalks : ¬ Mute {} config.settings.port (config.candidates nodes) := by
      rintro (hnobody | ⟨failure, hfailure⟩)
      · rw [hnobody, DesiredMembers.mem_hosts_ofCandidates] at hhost
        cases hhost
      · cases hfailure
    exact ⟨"", {}, _, _, hdialogue.commands, Or.inl (hshape.mem_initiate htalks), hhost⟩

/-- An undisturbed run initiates the replica set with all candidates. -/
theorem Run.replicaSet_of_none (hparse : Config.parse text = .ok config)
    (hname : config.settings.replicaSet = some name) (runId : String) {site : Site}
    (h : site.cluster.Undisturbed config.settings.port) (hnone : site.cluster.replicaSet = none)
    (hany : config.candidates nodes ≠ []) :
    let initial : ReplicaConfig :=
      .initial name (DesiredMembers.ofCandidates (config.candidates nodes)).byHost
    initial.defect? = none →
      ((execute runId config.settings { nodes := nodes }).run site).2.cluster.replicaSet =
        some initial := by
  intro initial hdefect
  have hconverge := Step.converge_of_none h hnone hdefect
  have hleaves : Ensures site.cluster (convergeReplicaSet config.settings.port
      config.settings.solo name (config.candidates nodes))
      (fun _ c => c.replicaSet = some initial) fun _ c => c.replicaSet = some initial := by
    refine ensures_convergeReplicaSet hany (hconverge.mono ?_ ?_)
    · exact fun _ _ h => h.2.1
    · exact fun _ _ h => h.elim
  exact leaves_of_convergence hparse hname hleaves

theorem Plan.lists_iff (hparse : Config.parse text = .ok config)
    (hname : config.settings.replicaSet = some name) {host : String} :
    Lists config.settings { nodes := nodes } host ↔
      host ∈ (config.candidates nodes).map Node.host := by
  rw [← DesiredMembers.mem_hosts_ofCandidates]
  constructor
  · rintro ⟨journal, plan, planned, hplan, hplanned, hhost⟩
    cases (make_of_replicaSet hparse hname nodes journal).symm.trans hplan
    cases hplanned
    exact hhost
  · intro hhost
    exact ⟨{}, _, _, make_of_replicaSet hparse hname nodes {}, rfl, hhost⟩

/-- Whether replica sets are kept apart can be seen from the inventory: every candidate has to share
its host with a node that may be put into the replica set. -/
theorem joins_only_its_own_iff (hparse : Config.parse text = .ok config)
    (hname : config.settings.replicaSet = some name) (nodes : List Node) :
    let discovery : Discovery := { nodes := nodes }
    let apart := ∀ candidate ∈ config.candidates nodes, MayJoin nodes name candidate.host
    ((∀ host, Run.Adds config.settings discovery host → MayJoin nodes name host) ↔ apart) ∧
    ((∀ host, Plan.Lists config.settings discovery host → MayJoin nodes name host) ↔ apart) ∧
    ((∀ node ∈ nodes, Run.Adds config.settings discovery node.host → node.mayJoin name = true) ↔
      ∀ candidate ∈ config.candidates nodes, ∀ node ∈ nodes, node.host = candidate.host →
        node.mayJoin name = true) := by
  intro discovery apart
  refine ⟨?_, ?_, ?_⟩
  · simp only [discovery, apart, Run.adds_iff hparse hname, List.forall_mem_map]
  · simp only [discovery, apart, Plan.lists_iff hparse hname, List.forall_mem_map]
  · simp only [discovery, Run.adds_iff hparse hname, List.mem_map]
    constructor
    · intro h candidate hcandidate node hnode hhost
      exact h node hnode ⟨candidate, hcandidate, hhost.symm⟩
    · rintro h node hnode ⟨candidate, hcandidate, hhost⟩
      exact h candidate hcandidate node hnode hhost.symm

end Hosts

/-- A configuration for a node whose replica set has a name of its own. -/
def namedText : String :=
  "\x7b\"node_name\":\"a\",\"instance_type\":\"mongod\",\"replicaset_name\":\"rs0\"\x7d"

def namedConfig : Config where
  file := { nodeName := "a", instanceType := "mongod", replicaSetName := some "rs0" }
  daemon := .mongod
  least := .info

theorem parse_namedText : Config.parse namedText = .ok namedConfig :=
  eq_ok_of_toOption (by decide +kernel)

/-- A data-bearing node, and a config server that replicates under another name. -/
def besideConfigServer (shard : Option String) : List Node :=
  [{ name := "a", fqdn := "a.cluster", ipAddress := "10.0.0.1", replicaSetName := some "rs0"
     roles := [.mongod, .replicaset] },
    { name := "c", fqdn := "c.cluster", ipAddress := "10.0.0.3", port := 27019
      replicaSetName := some "cfg", shardName := shard, roles := [.configserver, .replicaset] }]

/-- In a shard of its own, the config server is no candidate. -/
theorem joins_only_its_own_iff_across_shards :
    let nodes := besideConfigServer (some "config")
    Config.parse namedText = .ok namedConfig ∧ namedConfig.settings.replicaSet = some "rs0" ∧
      ∀ host, Run.Adds namedConfig.settings { nodes := nodes } host → MayJoin nodes "rs0" host := by
  intro nodes
  have hname : namedConfig.settings.replicaSet = some "rs0" := by decide +kernel
  obtain ⟨hadds, -, -⟩ := joins_only_its_own_iff parse_namedText hname nodes
  exact ⟨parse_namedText, hname, hadds.2 (by decide +kernel)⟩

/-- In the same shard, the config server is put into the replica set of the data-bearing node. -/
theorem merges_two_replica_sets :
    let nodes := besideConfigServer none
    let members : List Member := [⟨0, "a.cluster:27017"⟩, ⟨1, "c.cluster:27019"⟩]
    let after := ((Run.execute "r" namedConfig.settings { nodes := nodes }).run {}).2.cluster
    Config.parse namedText = .ok namedConfig ∧ namedConfig.settings.replicaSet = some "rs0" ∧
      after.replicaSet = some (.initial "rs0" members) ∧
      ((Plan.make namedConfig.settings { nodes := nodes }).run.run {}).1 =
        .ok { nodeName := "a", daemon := .mongod, replicaSet := some ⟨"rs0", members⟩ } ∧
      ¬ MayJoin nodes "rs0" "c.cluster:27019" := by
  intro nodes members after
  have hname : namedConfig.settings.replicaSet = some "rs0" := by decide +kernel
  have hcandidates : namedConfig.candidates nodes = nodes := by decide +kernel
  have hmembers :
      (DesiredMembers.ofCandidates (namedConfig.candidates nodes)).byHost = members := by
    rw [hcandidates, DesiredMembers.byHost_ofCandidates,
      DesiredMembers.sorted_eq_self (by decide +kernel)]
    decide +kernel
  have hafter : after.replicaSet = some (.initial "rs0" members) := by
    rw [← hmembers]
    refine Run.replicaSet_of_none parse_namedText hname "r" ⟨⟨rfl, rfl⟩, rfl⟩ rfl ?_ ?_
    · rw [hcandidates]
      exact List.cons_ne_nil _ _
    · rw [hmembers]
      decide +kernel
  refine ⟨parse_namedText, hname, hafter, ?_, by decide +kernel⟩
  rw [Plan.make_of_replicaSet parse_namedText hname, hmembers]
  rfl

end ClusterConvergence
