import ClusterConvergence.Cli.Config
import ClusterConvergence.Proofs.Run.Plan

/-!
# What stops a run

A run of a configuration is stopped by its collections, by the number of config servers, by
discovery, or because nobody makes up the replica set of a node that is on its own.  All this is
known from the settings and from discovery: `Run.obstacle?`.  Whatever the cluster does, a run is
stopped exactly by that, and before it does anything (`phases_checked`).  So a run that is stopped
leaves the cluster as it was (`stopped_run_leaves_cluster`).

What makes this work is that the routing layer has no replica set.  Its phases ask discovery in
turn, and if it had one, the shards could be refused after the replica set was changed.

A plan asks for the same things, with one exception (`plan_checks_like_run`): it does not look
whether anybody makes up the replica set.
-/

namespace ClusterConvergence

open Activity

namespace Config

/-- The routing layer converges no replica set. -/
theorem replicaSet_of_router (config : Config) (h : config.settings.daemon.isRouter = true) :
    config.settings.replicaSet = none := by
  have hdaemon : config.daemon = .mongos := of_decide_eq_true h
  show config.replicaSet = none
  rw [replicaSet, hdaemon]
  rfl

theorem isRouter_of_replicaSet {config : Config} {name : String}
    (hname : config.settings.replicaSet = some name) :
    config.settings.daemon.isRouter = false := by
  rw [Bool.eq_false_iff]
  intro hrouter
  cases hname.symm.trans (config.replicaSet_of_router hrouter)

/-- The nodes that a configuration would put into its replica set. -/
def candidates (config : Config) (nodes : List Node) : List Node :=
  nodes.filter config.settings.replicaSetQuery.accepts

/-- What is known of a configuration that was accepted: the texts of its file say what the
configuration says, and the collections are well formed. -/
structure Accepted (config : Config) : Prop where
  daemon : config.file.daemon = .ok config.daemon
  least : config.file.least = .ok config.least
  collections : ∃ collections,
    ShardedCollection.parseAll config.settings.collections = .ok collections

theorem accepted_of_parse {text : String} {config : Config} (h : parse text = .ok config) :
    config.Accepted := by
  rw [parse] at h
  split at h
  · next file _ =>
    obtain ⟨_, -, h⟩ := exists_of_bind_eq_ok h
    obtain ⟨daemon, hdaemon, h⟩ := exists_of_bind_eq_ok h
    obtain ⟨_, -, h⟩ := exists_of_bind_eq_ok h
    obtain ⟨_, -, h⟩ := exists_of_bind_eq_ok h
    obtain ⟨_, -, h⟩ := exists_of_bind_eq_ok h
    obtain ⟨least, hleast, h⟩ := exists_of_bind_eq_ok h
    obtain ⟨_, -, h⟩ := exists_of_bind_eq_ok h
    obtain ⟨collections, hcollections, h⟩ := exists_of_bind_eq_ok h
    cases h
    refine ⟨hdaemon, hleast, ?_⟩
    rw [ConfigFile.collections] at hcollections
    show ∃ collections, ShardedCollection.parseAll file.shardedCollections = _
    rcases hparsed : ShardedCollection.parseAll file.shardedCollections with cause | parsed
    · rw [hparsed] at hcollections
      cases hcollections
    · exact ⟨parsed, rfl⟩
  · cases h

end Config

namespace Run

variable {settings : Settings} {discovery : Discovery}

/-- What a plan and a run ask for alike, before either does anything. -/
def prerequisites (settings : Settings) (discovery : Discovery) : Except RunError Unit := do
  let _ ← ShardedCollection.parseAll settings.collections
  if settings.daemon.isRouter then
    let _ ← checkedCount settings discovery.list 0
    let _ ← discovery.list 1 settings.shardQuery
  else if settings.replicaSet.isSome then
    let _ ← discovery.list 0 settings.replicaSetQuery

/-- The replica set that nobody makes up, on a node that is on its own. -/
def deserted? (settings : Settings) (discovery : Discovery) : Option String :=
  if settings.solo && !discovery.nodes.any settings.replicaSetQuery.accepts then settings.replicaSet
  else none

/-- What stops a run, if anything does. -/
def obstacle? (settings : Settings) (discovery : Discovery) : Option RunError :=
  match prerequisites settings discovery with
  | .error cause => some cause
  | .ok () => (deserted? settings discovery).map .noMembers

/-- How a run ends that does not come to its report.  If it is stopped, that is by what stands in
its way, and the cluster is untouched.  An overflow is only possible where nothing stands in the
way. -/
def StoppedBy (settings : Settings) (discovery : Discovery) (before : Cluster) :
    Abort → Cluster → Prop
  | .error cause, after => obstacle? settings discovery = some cause ∧ after = before
  | .overflow, _ => obstacle? settings discovery = none

/-! ## The checks, one after the other -/

theorem obstacle?_of_error {cause : RunError}
    (h : prerequisites settings discovery = .error cause) :
    obstacle? settings discovery = some cause := by
  rw [obstacle?, h]

theorem obstacle?_of_ok (h : prerequisites settings discovery = .ok ()) :
    obstacle? settings discovery = (deserted? settings discovery).map .noMembers := by
  rw [obstacle?, h]

theorem prerequisites_of_malformed {cause : RunError}
    (hparsed : ShardedCollection.parseAll settings.collections = .error cause) :
    prerequisites settings discovery = .error cause := by
  rw [prerequisites, hparsed]
  rfl

theorem prerequisites_of_router {collections : List ShardedCollection}
    (hparsed : ShardedCollection.parseAll settings.collections = .ok collections)
    (hdaemon : settings.daemon.isRouter = true) :
    prerequisites settings discovery =
      (checkedCount settings discovery.list 0 >>= fun _ =>
        discovery.list 1 settings.shardQuery >>= fun _ => .ok ()) := by
  rw [prerequisites, hparsed, hdaemon]
  rfl

theorem prerequisites_of_counted {collections : List ShardedCollection} {count : Nat}
    (hparsed : ShardedCollection.parseAll settings.collections = .ok collections)
    (hdaemon : settings.daemon.isRouter = true)
    (hcount : checkedCount settings discovery.list 0 = .ok count) :
    prerequisites settings discovery =
      (discovery.list 1 settings.shardQuery >>= fun _ => .ok ()) := by
  rw [prerequisites_of_router hparsed hdaemon, hcount]
  rfl

theorem prerequisites_of_other {collections : List ShardedCollection}
    (hparsed : ShardedCollection.parseAll settings.collections = .ok collections)
    (hdaemon : settings.daemon.isRouter = false) :
    prerequisites settings discovery =
      if settings.replicaSet.isSome then
        discovery.list 0 settings.replicaSetQuery >>= fun _ => .ok ()
      else .ok () := by
  rw [prerequisites, hparsed, hdaemon]
  rfl

theorem deserted?_of_none (hnone : settings.replicaSet = none) :
    deserted? settings discovery = none := by
  rw [deserted?, hnone, ite_self]

/-- Whoever could make up the replica set is listed by discovery. -/
theorem deserted?_of_list {place : Nat} {candidates : List Node}
    (hlist : discovery.list place settings.replicaSetQuery = .ok candidates) :
    deserted? settings discovery =
      if settings.solo && candidates.isEmpty then settings.replicaSet else none := by
  have hcandidates : candidates = discovery.nodes.filter settings.replicaSetQuery.accepts := by
    rw [Discovery.list] at hlist
    split at hlist
    · cases hlist
    · cases hlist
      rfl
  have hempty : candidates.isEmpty = !discovery.nodes.any settings.replicaSetQuery.accepts := by
    rw [hcandidates, Bool.eq_iff_iff]
    simp
  rw [deserted?, hempty]

/-! ## What a run comes to -/

variable {cluster : Cluster} {runId : String}

/-- The routing layer without a replica set: nothing is done before the shards are listed, and
nothing is refused afterwards. -/
theorem phases_of_router (hdaemon : settings.daemon.isRouter = true)
    (hnone : settings.replicaSet = none) :
    Ensures cluster (phases runId settings discovery.list)
      (fun _ _ => obstacle? settings discovery = none) (StoppedBy settings discovery cluster) := by
  refine ensures_phases_of_router hdaemon ?_ ?_ ?_
  · intro cause hparsed
    exact ⟨obstacle?_of_error (prerequisites_of_malformed hparsed), rfl⟩
  · intro collections cause hparsed hcount
    refine ⟨obstacle?_of_error ?_, rfl⟩
    rw [prerequisites_of_router hparsed hdaemon, hcount]
    rfl
  · intro collections count hparsed hcount
    have hprerequisites : prerequisites settings discovery = _ :=
      prerequisites_of_counted hparsed hdaemon hcount
    refine ensures_convergeOwn (fun _ => ?_) ?_ ?_
    · -- nobody was asked for candidates, so the shards are the second thing that is asked for
      rw [hnone]
      show Ensures cluster (shardsPhase settings discovery.list 1) _ _
      refine ensures_shardsPhase (fun nodes hnodes => ?_) fun cause hrefused => ?_
      · rw [hnodes] at hprerequisites
        have hclear : obstacle? settings discovery = none := by
          rw [obstacle?_of_ok hprerequisites, deserted?_of_none hnone]
          rfl
        refine Yields.of_forall fun shards c => ?_
        split
        · exact Ensures.pure hclear
        · exact ensures_collectionsPhase hparsed (Yields.of_forall fun _ _ => hclear)
      · rw [hrefused] at hprerequisites
        exact ⟨obstacle?_of_error hprerequisites, rfl⟩
    · intro name hname
      cases hname.symm.trans hnone
    · intro name hname
      cases hname.symm.trans hnone

/-- Everywhere else the candidates are listed before anything is done. -/
theorem phases_of_other (hdaemon : settings.daemon.isRouter = false) :
    Ensures cluster (phases runId settings discovery.list)
      (fun _ _ => obstacle? settings discovery = none) (StoppedBy settings discovery cluster) := by
  refine ensures_phases_of_other hdaemon ?_ ?_
  · intro cause hparsed
    exact ⟨obstacle?_of_error (prerequisites_of_malformed hparsed), rfl⟩
  · intro collections hparsed
    have hprerequisites : prerequisites settings discovery = _ :=
      prerequisites_of_other hparsed hdaemon
    refine ensures_convergeOwn (fun hnone => ?_) (fun name hname cause hlist => ?_) ?_
    · rw [hnone] at hprerequisites
      rw [obstacle?_of_ok hprerequisites, deserted?_of_none hnone]
      rfl
    · rw [hname, hlist] at hprerequisites
      exact ⟨obstacle?_of_error hprerequisites, rfl⟩
    · intro name hname candidates hlist
      rw [hname, hlist] at hprerequisites
      have hobstacle := obstacle?_of_ok hprerequisites
      rw [deserted?_of_list hlist, hname] at hobstacle
      -- only without candidates can the convergence stop the run
      rcases candidates with - | ⟨node, nodes⟩
      · refine ensures_convergeReplicaSet_nil (fun hsolo => ?_) fun hsolo => ?_
        · rw [hsolo] at hobstacle
          exact ⟨hobstacle, rfl⟩
        · rw [hsolo] at hobstacle
          exact hobstacle
      · have hclear : obstacle? settings discovery = none := by
          simpa using hobstacle
        refine ensures_convergeReplicaSet (List.cons_ne_nil _ _) (Ensures.of_forall ?_ ?_)
        · exact fun _ _ => hclear
        · rintro (outcome | -) c
          · exact hclear
          · exact hclear

/-- Whatever the cluster does, the phases are stopped by what stands in their way, and before they
do anything. -/
theorem phases_checked (hrouter : settings.daemon.isRouter = true → settings.replicaSet = none) :
    Ensures cluster (phases runId settings discovery.list)
      (fun _ _ => obstacle? settings discovery = none) (StoppedBy settings discovery cluster) := by
  cases hdaemon : settings.daemon.isRouter with
  | true => exact phases_of_router hdaemon (hrouter hdaemon)
  | false => exact phases_of_other hdaemon

theorem execute_checked (config : Config) :
    Ensures cluster (ExceptT.mk (execute runId config.settings discovery))
      (fun _ _ => obstacle? config.settings discovery = none)
      (StoppedBy config.settings discovery cluster) :=
  ensures_execute (phases_checked config.replicaSet_of_router)

/-- What stops a run is known before it begins. -/
theorem execute_eq_error_iff {config : Config} {site : Site} {cause : RunError} :
    ((execute runId config.settings discovery).run site).1 = .error (.error cause) ↔
      obstacle? config.settings discovery = some cause := by
  constructor
  · intro hstopped
    exact ((execute_checked config).of_error hstopped).1
  · intro hobstacle
    rcases hrun : ((execute runId config.settings discovery).run site).1 with (reason | -) | report
    · have hstopped := (execute_checked config).of_error hrun
      cases hobstacle.symm.trans hstopped.1
      rfl
    · cases hobstacle.symm.trans ((execute_checked config).of_error hrun)
    · cases hobstacle.symm.trans ((execute_checked config).of_ok hrun)

/-- A run that is stopped has sent no command and opened no connection: the cluster is what it was.
That goes for all settings that come from a configuration, wherever discovery refuses to answer. -/
theorem stopped_run_leaves_cluster {config : Config} {discovery : Discovery} {runId : String}
    {site : Site} {cause : RunError}
    (hstopped : ((execute runId config.settings discovery).run site).1 = .error (.error cause)) :
    ((execute runId config.settings discovery).run site).2.cluster = site.cluster :=
  ((execute_checked config).of_error hstopped).2

/-- A configuration for the routing layer. -/
def routerText : String :=
  "\x7b\"node_name\":\"m\",\"instance_type\":\"mongos\"\x7d"

def routerConfig : Config where
  file := { nodeName := "m", instanceType := "mongos" }
  daemon := .mongos
  least := .info

theorem parse_routerText : Config.parse routerText = .ok routerConfig :=
  eq_ok_of_toOption (by decide +kernel)

def configServer : Node :=
  { name := "c", fqdn := "c.cluster", ipAddress := "10.0.0.3", roles := [.configserver] }

/-- Something has happened at this site before. -/
def usedSite : Site where
  cluster := { shards := ["rs0/a.cluster:27017"], commands := [.hello], connections := ["a:27017"] }

theorem stopped_run_leaves_cluster_at_shards :
    let discovery : Discovery := { nodes := [configServer], refusedQuery := some 1 }
    let run := (execute "r" routerConfig.settings discovery).run usedSite
    Config.parse routerText = .ok routerConfig ∧
      run.1 = .error (.error (.discovery "query 1 refused")) ∧
      run.2.cluster = usedSite.cluster := by
  intro discovery run
  have hstopped : run.1 = .error (.error (.discovery "query 1 refused")) :=
    execute_eq_error_iff.2 (by decide +kernel)
  exact ⟨parse_routerText, hstopped, stopped_run_leaves_cluster hstopped⟩

end Run

/-! ## What a plan comes to -/

namespace Plan

open Run

variable {settings : Settings} {discovery : Discovery} {cause : RunError}

/-- A plan is refused for what it asks for together with a run. -/
theorem map_ofAnswers (hrouter : settings.daemon.isRouter = true → settings.replicaSet = none) :
    (ofAnswers settings discovery.list).map (fun _ => ()) = prerequisites settings discovery := by
  rw [ofAnswers, prerequisites]
  rcases ShardedCollection.parseAll settings.collections with reason | collections
  · rfl
  cases hdaemon : settings.daemon.isRouter with
  | true =>
    rw [replicaSetOf, hrouter hdaemon]
    show (routing settings discovery.list 0 collections _).map _ = _
    rw [routing]
    rcases checkedCount settings discovery.list 0 with reason | count
    · rfl
    · show Except.map _ (discovery.list 1 settings.shardQuery >>= _) = _
      rcases discovery.list 1 settings.shardQuery with reason | nodes
      · rfl
      · rfl
  | false =>
    rw [replicaSetOf]
    rcases settings.replicaSet with - | name
    · rfl
    · rcases discovery.list 0 settings.replicaSetQuery with reason | candidates
      · rfl
      · rfl

/-- What refuses a plan does not depend on the journal, and a run asks for it as well. -/
theorem make_eq_error_iff (config : Config) (journal : Journal) :
    ((make config.settings discovery).run.run journal).1 = .error cause ↔
      prerequisites config.settings discovery = .error cause := by
  rw [make_fst, ← map_ofAnswers config.replicaSet_of_router]
  rcases ofAnswers config.settings discovery.list with reason | plan
  · exact ⟨fun h => congrArg _ h, fun h => congrArg _ (Except.error.inj h)⟩
  · exact ⟨nofun, nofun⟩

/-- The plan of a node with a replica set. -/
theorem make_of_replicaSet {text : String} {config : Config} {name : String}
    (hparse : Config.parse text = .ok config) (hname : config.settings.replicaSet = some name)
    (nodes : List Node) (journal : Journal) :
    ((make config.settings { nodes := nodes }).run.run journal).1 =
      .ok { nodeName := config.settings.nodeName
            daemon := config.settings.daemon
            replicaSet := some
              ⟨name, (DesiredMembers.ofCandidates (config.candidates nodes)).byHost⟩ } := by
  obtain ⟨collections, hparsed⟩ := (Config.accepted_of_parse hparse).collections
  rw [make_fst, ofAnswers, hparsed, replicaSetOf, hname, Config.isRouter_of_replicaSet hname]
  rfl

/-- Where nobody makes up the replica set there is a plan nonetheless, without members. -/
theorem make_of_deserted {text : String} {config : Config} (hparse : Config.parse text = .ok config)
    {nodes : List Node} {name : String}
    (hdeserted : deserted? config.settings { nodes := nodes } = some name) (journal : Journal) :
    ∃ plan, ((make config.settings { nodes := nodes }).run.run journal).1 = .ok plan ∧
      plan.replicaSet = some ⟨name, []⟩ := by
  have hlist : Discovery.list { nodes := nodes } 0 config.settings.replicaSetQuery =
      .ok (config.candidates nodes) :=
    rfl
  rw [deserted?_of_list hlist] at hdeserted
  split at hdeserted
  · next hempty =>
    have hnone : config.candidates nodes = [] :=
      List.isEmpty_iff.1 (Bool.and_eq_true_iff.1 hempty).2
    have hmembers : (DesiredMembers.ofCandidates []).byHost = [] := by
      rw [DesiredMembers.byHost_ofCandidates, DesiredMembers.sorted_eq_self List.Pairwise.nil]
      rfl
    refine ⟨_, make_of_replicaSet hparse hdeserted nodes journal, ?_⟩
    rw [hnone, hmembers]
  · cases hdeserted

/-- A plan is refused for nothing for which a run is not, and for everything else as well but one
thing: on a node that is on its own, a run is stopped if nobody makes up the replica set, and a plan
is made with no members. -/
theorem plan_checks_like_run {text : String} {config : Config}
    (hparse : Config.parse text = .ok config) (nodes : List Node) (runId : String) (site : Site)
    (journal : Journal) :
    let discovery : Discovery := { nodes := nodes }
    let planned := ((make config.settings discovery).run.run journal).1
    let ran := ((execute runId config.settings discovery).run site).1
    (∀ cause, planned = .error cause → ran = .error (.error cause)) ∧
    ((∀ cause, planned = .error cause ↔ ran = .error (.error cause)) ↔
      deserted? config.settings discovery = none) ∧
    ∀ name, deserted? config.settings discovery = some name →
      (∃ plan, planned = .ok plan ∧ plan.replicaSet = some ⟨name, []⟩) ∧
        ran = .error (.error (.noMembers name)) := by
  intro discovery planned ran
  have hplanned : ∀ cause, planned = .error cause ↔
      prerequisites config.settings discovery = .error cause :=
    fun _ => make_eq_error_iff config journal
  have hran : ∀ cause, ran = .error (.error cause) ↔
      obstacle? config.settings discovery = some cause :=
    fun _ => execute_eq_error_iff
  have hdeserted : ∀ name, deserted? config.settings discovery = some name →
      (∃ plan, planned = .ok plan ∧ plan.replicaSet = some ⟨name, []⟩) ∧
        ran = .error (.error (.noMembers name)) := by
    intro name hname
    obtain ⟨plan, hplan, hmembers⟩ := make_of_deserted hparse hname journal
    refine ⟨⟨plan, hplan, hmembers⟩, (hran _).2 ?_⟩
    -- there is a plan, so nothing is missing that both ask for
    have hpassed : prerequisites config.settings discovery = .ok () := by
      rcases hchecks : prerequisites config.settings discovery with cause | -
      · cases hplan.symm.trans ((hplanned cause).2 hchecks)
      · rfl
    rw [obstacle?_of_ok hpassed, hname]
    rfl
  refine ⟨?_, ⟨?_, ?_⟩, hdeserted⟩
  · exact fun cause h => (hran cause).2 (obstacle?_of_error ((hplanned cause).1 h))
  · intro hagree
    rcases hname : deserted? config.settings discovery with - | name
    · rfl
    · obtain ⟨⟨plan, hplan, -⟩, hstopped⟩ := hdeserted name hname
      cases hplan.symm.trans ((hagree _).2 hstopped)
  · intro hnone cause
    rw [hplanned, hran, obstacle?, hnone]
    rcases prerequisites config.settings discovery with reason | -
    · exact ⟨fun h => congrArg _ (Except.error.inj h), fun h => congrArg _ (Option.some.inj h)⟩
    · exact ⟨nofun, nofun⟩

/-- With two config servers there is neither a plan nor a run. -/
theorem plan_checks_like_run_with_two_config_servers :
    let discovery : Discovery := { nodes := [configServer, configServer] }
    Config.parse routerText = .ok routerConfig ∧
      ((make routerConfig.settings discovery).run.run {}).1 = .error (.configServerCount 2) ∧
      ((execute "r" routerConfig.settings discovery).run usedSite).1 =
        .error (.error (.configServerCount 2)) := by
  intro discovery
  have hplanned : ((make routerConfig.settings discovery).run.run {}).1 =
      .error (.configServerCount 2) :=
    (make_eq_error_iff _ _).2 rfl
  obtain ⟨hsame, -, -⟩ :=
    plan_checks_like_run parse_routerText [configServer, configServer] "r" usedSite {}
  exact ⟨parse_routerText, hplanned, hsame _ hplanned⟩

/-- A configuration for a node that is on its own. -/
def soloText : String :=
  "\x7b\"node_name\":\"a\",\"instance_type\":\"shard\",\"replicated\":true,\"solo\":true\x7d"

def soloConfig : Config where
  file := { nodeName := "a", instanceType := "shard", replicated := true, solo := true }
  daemon := .shard
  least := .info

/-- Without any nodes a plan is made and a run is stopped. -/
theorem plan_without_members :
    let discovery : Discovery := { nodes := [] }
    Config.parse soloText = .ok soloConfig ∧
      ((make soloConfig.settings discovery).run.run {}).1 =
        .ok { nodeName := "a", daemon := .shard, replicaSet := some ⟨"rs_default", []⟩ } ∧
      ((execute "r" soloConfig.settings discovery).run {}).1 =
        .error (.error (.noMembers "rs_default")) := by
  intro discovery
  refine ⟨eq_ok_of_toOption (by decide +kernel), eq_ok_of_toOption ?_, rfl⟩
  simp only [make, makeWith, replicaSetOf, DesiredMembers.ofCandidates]
  decide +kernel

end Plan

end ClusterConvergence
