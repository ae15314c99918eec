import ClusterConvergence.Proofs.Run.Course
import ClusterConvergence.Proofs.Run.Plan

/-!
# A plan tells what a run submits

A plan is made without a cluster, from the nodes of an inventory alone; a run computes what it submits
again, phase by phase.  Both come to the same: `plan_forecasts_run`.  The two are compared with the
same description, the items that follow from the settings and from what is discovered.
-/

namespace ClusterConvergence

variable {settings : Settings} {nodes : List Node}

/-- The candidates that an inventory has for the replica set. -/
def Settings.candidates (settings : Settings) (nodes : List Node) : List Node :=
  nodes.filter settings.replicaSetQuery.accepts

@[simp] theorem Discovery.list_nodes (nodes : List Node) (place : Nat) (query : Query) :
    Discovery.list { nodes := nodes } place query = .ok (nodes.filter query.accepts) := rfl

/-- An inventory has the same shards at whatever place the query for them is asked. -/
theorem Settings.shardItems_eq (place : Nat) :
    settings.shardItems (Discovery.list { nodes := nodes }) place =
      (ShardSpec.ofNodes (nodes.filter settings.shardQuery.accepts)).map
        fun spec => .shard spec.text := by
  simp [shardItems, Except.toOption]

namespace Plan

/-- What a plan lists. -/
structure Lays (settings : Settings) (nodes : List Node) (plan : Plan) : Prop where
  replicaSet : plan.replicaSet = settings.replicaSet.map fun name =>
    ⟨name, (DesiredMembers.ofCandidates (settings.candidates nodes)).byHost⟩
  shards : plan.shards.map Item.shard = if settings.daemon.isRouter then
    settings.shardItems (Discovery.list { nodes := nodes }) 0 else []
  sharding : plan.databases.map Item.database ++ plan.collections.map Item.collection =
    if settings.daemon.isRouter then shardingItems settings.givenCollections else []

theorem replicaSetOf_nodes :
    replicaSetOf settings (Discovery.list { nodes := nodes }) = .ok (settings.replicaSet.map fun name =>
      ⟨name, (DesiredMembers.ofCandidates (settings.candidates nodes)).byHost⟩) := by
  rw [replicaSetOf]
  cases settings.replicaSet <;> rfl

theorem lays_of_make {plan : Plan} {journal : Journal}
    (h : ((make settings { nodes := nodes }).run.run journal).1 = .ok plan) :
    Lays settings nodes plan := by
  rw [make_fst, ofAnswers, replicaSetOf_nodes] at h
  obtain ⟨collections, hparsed, h⟩ := exists_of_bind_eq_ok h
  obtain ⟨replicaSet, hreplicaSet, h⟩ := exists_of_bind_eq_ok h
  cases hreplicaSet
  obtain rfl := ShardedCollection.eq_of_parseAll hparsed
  cases hdaemon : settings.daemon.isRouter with
  | false =>
    rw [hdaemon] at h
    cases h
    exact ⟨rfl, by simp [hdaemon], by simp [hdaemon]⟩
  | true =>
    rw [hdaemon, if_pos rfl, routing] at h
    obtain ⟨count, -, h⟩ := exists_of_bind_eq_ok h
    cases h
    refine ⟨rfl, ?_, ?_⟩
    · simp [hdaemon, Settings.shardItems_eq]
    · simp [hdaemon, shardingItems, Settings.givenCollections]

end Plan

/-- Items are submitted with commands of their own. -/
theorem Run.ItemsPart.not_mem_initiate {items : List Item} {exchanges : List Exchange}
    (h : ItemsPart items exchanges) (config : ReplicaConfig) :
    .initiate config ∉ exchanges.map Exchange.command := by
  intro hmem
  obtain ⟨item, -, hitem⟩ := List.mem_map.1 (h.subset hmem)
  cases item <;> cases hitem

/-- If a run initiates a replica set, it is its own, with the members that were discovered. -/
theorem Run.Course.eq_initial {own added sharded : List Exchange} {config : ReplicaConfig}
    (h : Course settings (Discovery.list { nodes := nodes }) own added sharded)
    (hmem : .initiate config ∈ (own ++ added ++ sharded).map Exchange.command) :
    ∃ name, settings.replicaSet = some name ∧
      config = .initial name (DesiredMembers.ofCandidates (settings.candidates nodes)).byHost := by
  have hown : .initiate config ∈ own.map Exchange.command := by
    have hadded := h.shards.not_mem_initiate config
    have hsharded := h.collections.not_mem_initiate config
    simp only [List.map_append, List.mem_append] at hmem
    exact (hmem.resolve_right hsharded).resolve_right hadded
  rcases h.replicaSet with rfl | ⟨name, candidates, mute, hname, hcandidates, hshape⟩
  · cases hown
  · rw [Discovery.list_nodes] at hcandidates
    cases hcandidates
    exact ⟨name, hname, hshape.eq_initial hown⟩

/-- A plan and a run from the same settings and the same inventory agree.  The run tells what became
of the shards, the databases and the collections of the plan, in this order and of nothing else.  It
converges the replica set of the plan; if it initiates it, then in version 1 with the members of the
plan.  This holds for every cluster and whatever faults hit the commands of the run. -/
theorem plan_forecasts_run (settings : Settings) (nodes : List Node) (journal : Journal)
    (runId : String) (site : Site) {plan : Plan} {report : Report}
    (hplan : ((Plan.make settings { nodes := nodes }).run.run journal).1 = .ok plan)
    (hreport : ((Run.execute runId settings { nodes := nodes }).run site).1 = .ok report) :
    let after := ((Run.execute runId settings { nodes := nodes }).run site).2.cluster
    report.shards.map ItemOutcome.item = plan.shards.map Item.shard ∧
    report.sharding.map ItemOutcome.item =
      plan.databases.map Item.database ++ plan.collections.map Item.collection ∧
    report.replicaSet.map ReplicaSetReport.name = plan.replicaSet.map PlannedReplicaSet.name ∧
    ∃ sent, after.commands = site.cluster.commands ++ sent ∧
      ∀ config, .initiate config ∈ sent →
        ∃ planned, plan.replicaSet = some planned ∧
          config.id = planned.name ∧ config.members = planned.members ∧ config.version = 1 := by
  intro after
  have hlays := Plan.lays_of_make hplan
  have hrun := Run.ensures_execute
    (@Run.ensures_phases_course site.cluster settings (Discovery.list { nodes := nodes }) runId)
  obtain ⟨haccounts, own, added, sharded, hsaid, hcourse⟩ := hrun.of_ok hreport
  refine ⟨?_, ?_, ?_, (own ++ added ++ sharded).map Exchange.command, hsaid.commands, ?_⟩
  · rw [haccounts.shards, hlays.shards, Settings.shardItems_eq, Settings.shardItems_eq]
  · rw [haccounts.sharding, hlays.sharding]
  · rw [haccounts.replicaSet, hlays.replicaSet]
    simp [Function.comp_def]
  · intro config hmem
    obtain ⟨name, hname, rfl⟩ := hcourse.eq_initial hmem
    have hplanned : plan.replicaSet = some
        ⟨name, (DesiredMembers.ofCandidates (settings.candidates nodes)).byHost⟩ := by
      rw [hlays.replicaSet, hname]
      rfl
    exact ⟨_, hplanned, rfl, rfl, rfl⟩

/-- A routing layer that has a replica set of its own. -/
def busySettings : Settings where
  nodeName := "m"
  daemon := .mongos
  replicaSet := some "rs0"
  collections := Dict.ofList [("app.users", "_id")]

/-- A config server, a member of the replica set, and a shard. -/
def busyNodes : List Node :=
  [{ name := "c", fqdn := "c.cluster", ipAddress := "10.0.0.1", roles := [.configserver] },
    { name := "r", fqdn := "r.cluster", ipAddress := "10.0.0.2", roles := [.replicaset] },
    { name := "s", fqdn := "s.cluster", ipAddress := "10.0.0.3", roles := [.shard] }]

/-- The connection is lost when the shard is registered. -/
theorem plan_forecasts_run_with_lost_connection :
    let site : Site := { cluster := { faults := [("addShard", .drop)] } }
    let plan : Plan :=
      { nodeName := "m", daemon := .mongos, configServers := some 1
        replicaSet := some ⟨"rs0", [⟨0, "r.cluster:27017"⟩]⟩, shards := ["s.cluster:27017"]
        databases := ["app"], collections := [⟨"app.users", "_id"⟩] }
    ((Plan.make busySettings { nodes := busyNodes }).run.run {}).1 = .ok plan ∧
      ∃ report, ((Run.execute "r" busySettings { nodes := busyNodes }).run site).1 = .ok report ∧
        report.shards.map ItemOutcome.item = [.shard "s.cluster:27017"] ∧
        report.sharding.map ItemOutcome.item =
          [.database "app", .collection ⟨"app.users", "_id"⟩] := by
  intro site plan
  have hplan : ((Plan.make busySettings { nodes := busyNodes }).run.run {}).1 = .ok plan :=
    eq_ok_of_toOption (by decide +kernel)
  have hreturns :
      ((Run.execute "r" busySettings { nodes := busyNodes }).run site).1.toOption.isSome = true := by
    decide +kernel
  obtain ⟨report, hsome⟩ := Option.isSome_iff_exists.1 hreturns
  have hreport := eq_ok_of_toOption hsome
  obtain ⟨hshards, hsharding, -, -⟩ := plan_forecasts_run _ _ _ _ _ hplan hreport
  exact ⟨hplan, report, hreport, hshards, hsharding⟩

end ClusterConvergence
