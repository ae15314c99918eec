import ClusterConvergence.Proofs.Run.Checks

/-!
# What can still stop an accepted configuration

A configuration is checked once, when its file is read, and what the texts in it say is asked for
again and again afterwards: the kind of daemon, the least severity, the collections.  None of them can
be refused later (`Config.Accepted`).  What can still stop a plan or a run is that nodes cannot be
listed, that the routing layer has the wrong number of config servers, or that a node that is on its
own finds nobody for its replica set (`Config.Foresees`).

Main statement: `accepted_config_stays_valid`.
-/

namespace ClusterConvergence

open Activity

/-- Whoever answers refuses a query only because the nodes cannot be listed. -/
def Answers.RefuseAsDiscovery (answers : Answers) : Prop :=
  ∀ place query cause, answers place query = .error cause → ∃ reason, cause = .discovery reason

namespace ConfigFile

/-- The replica set that the texts of a file lead to. -/
def replicaSet (file : ConfigFile) : Except CliError (Option String) := do
  let daemon ← file.daemon
  return daemon.replicaSet? file.replicated file.replicaSetName file.shardName

/-- The settings that the texts of a file lead to. -/
def settings (file : ConfigFile) : Except CliError Settings := do
  let daemon ← file.daemon
  let replicaSet ← file.replicaSet
  return { nodeName := file.nodeName, clusterName := file.clusterName
           environment := file.environment, daemon := daemon, port := file.port
           replicaSet := replicaSet, shard := file.shardName, solo := file.solo
           collections := file.shardedCollections }

end ConfigFile

namespace Config

/-- What can stop a plan or a run of a configuration. -/
inductive Foresees (config : Config) : RunError → Prop
  | discovery (reason : String) : Foresees config (.discovery reason)
  | configServerCount {found : Nat} (hdaemon : config.daemon = .mongos)
      (hcount : isConfigServerCount found = false) : Foresees config (.configServerCount found)
  | noMembers {name : String} (hsolo : config.file.solo = true)
      (hname : config.replicaSet = some name) : Foresees config (.noMembers name)

variable {config : Config} {answers : Answers} {cause : RunError}

theorem Foresees.of_answers (hanswers : answers.RefuseAsDiscovery) {place : Nat} {query : Query}
    (h : answers place query = .error cause) : config.Foresees cause := by
  obtain ⟨reason, rfl⟩ := hanswers _ _ _ h
  exact .discovery reason

theorem Foresees.of_checkedCount (hanswers : answers.RefuseAsDiscovery)
    (hdaemon : config.settings.daemon.isRouter = true) {place : Nat}
    (h : checkedCount config.settings answers place = .error cause) : config.Foresees cause := by
  rcases cases_of_bind_eq_error h with hrefused | ⟨nodes, -, hcounted⟩
  · exact .of_answers hanswers hrefused
  · split at hcounted
    · cases hcounted
    · next hcount =>
      cases hcounted
      exact .configServerCount (of_decide_eq_true hdaemon) (Bool.eq_false_iff.2 hcount)

namespace Accepted

theorem replicaSet (h : config.Accepted) : config.file.replicaSet = .ok config.replicaSet := by
  rw [ConfigFile.replicaSet, h.daemon]
  rfl

theorem settings (h : config.Accepted) : config.file.settings = .ok config.settings := by
  rw [ConfigFile.settings, h.daemon, h.replicaSet]
  rfl

/-- A plan asks for nothing that can be refused for another reason. -/
theorem foresees_of_plan (h : config.Accepted) (hanswers : answers.RefuseAsDiscovery)
    (hplan : Plan.ofAnswers config.settings answers = .error cause) : config.Foresees cause := by
  obtain ⟨collections, hparsed⟩ := h.collections
  rcases cases_of_bind_eq_error hplan with hmalformed | ⟨_, -, hplan⟩
  · cases hparsed.symm.trans hmalformed
  rcases cases_of_bind_eq_error hplan with hrefused | ⟨_, -, hplan⟩
  · rw [Plan.replicaSetOf] at hrefused
    split at hrefused
    · cases hrefused
    · rcases cases_of_bind_eq_error hrefused with hrefused | ⟨_, -, hrefused⟩
      · exact .of_answers hanswers hrefused
      · cases hrefused
  split at hplan
  · next hdaemon =>
    rcases cases_of_bind_eq_error hplan with hcount | ⟨_, -, hplan⟩
    · exact .of_checkedCount hanswers hdaemon hcount
    · rcases cases_of_bind_eq_error hplan with hrefused | ⟨_, -, hplan⟩
      · exact .of_answers hanswers hrefused
      · cases hplan
  · cases hplan

/-- Each phase of a run asks discovery before it acts, and what it does then stops nothing, apart from
a replica set without candidates. -/
theorem foresees_of_phases (h : config.Accepted) (hanswers : answers.RefuseAsDiscovery)
    (runId : String) (cluster : Cluster) :
    Ensures cluster (Run.phases runId config.settings answers) (fun _ _ => True)
      fun abort _ => ∀ cause, abort = .error cause → config.Foresees cause := by
  obtain ⟨collections, hparsed⟩ := h.collections
  have hmalformed : ∀ cause, ShardedCollection.parseAll config.settings.collections = .error cause →
      ∀ cause', Abort.error cause = .error cause' → config.Foresees cause' := by
    intro cause hmalformed
    cases hparsed.symm.trans hmalformed
  have hrefused : ∀ {place query} cause, answers place query = .error cause →
      ∀ cause', Abort.error cause = .error cause' → config.Foresees cause' := by
    rintro place query cause hrefused _ ⟨⟩
    exact .of_answers hanswers hrefused
  have hown : ∀ {place c} {post : Option ReplicaSetReport → Cluster → Prop},
      (∀ replicaSet c, post replicaSet c) →
      Ensures c (Run.convergeOwn config.settings answers place) post
        fun abort _ => ∀ cause, abort = .error cause → config.Foresees cause := by
    intro place c post hpost
    refine Run.ensures_convergeOwn (fun _ => hpost _ _) (fun _ _ => hrefused) ?_
    rintro name hname (- | ⟨node, nodes⟩) -
    · refine ensures_convergeReplicaSet_nil ?_ fun _ => hpost _ _
      rintro hsolo _ ⟨⟩
      exact .noMembers hsolo hname
    · refine ensures_convergeReplicaSet (List.cons_ne_nil _ _) (Ensures.of_forall ?_ ?_)
      · exact fun _ _ => hpost _ _
      · rintro (outcome | -) c
        · exact hpost _ _
        · exact nofun
  cases hdaemon : config.settings.daemon.isRouter with
  | false =>
    exact Run.ensures_phases_of_other hdaemon hmalformed fun _ _ => hown fun _ _ => trivial
  | true =>
    refine Run.ensures_phases_of_router hdaemon hmalformed ?_ ?_
    · rintro _ cause - hcount _ ⟨⟩
      exact .of_checkedCount hanswers hdaemon hcount
    · intro collections count hparsed _
      refine hown fun _ c => Run.ensures_shardsPhase (fun _ _ => ?_) hrefused
      refine Yields.of_forall fun _ c => ?_
      split
      · exact Ensures.pure trivial
      · exact Run.ensures_collectionsPhase hparsed (Yields.of_forall fun _ _ => trivial)

end Accepted

end Config

/-- An accepted configuration does not fail later as a configuration.  Whatever is read again from its
texts is what was read at first.  As long as those who answer the queries only fail to list nodes, a
plan and a run are stopped by nothing but that, by the number of config servers on the routing layer,
or by a replica set without candidates on a node that is on its own; so neither by a setting that
makes no sense nor by a text that names no kind of daemon. -/
theorem accepted_config_stays_valid {text : String} {config : Config}
    (hparse : Config.parse text = .ok config) :
    config.file.daemon = .ok config.daemon ∧ config.file.least = .ok config.least ∧
    config.file.replicaSet = .ok config.replicaSet ∧
    config.file.settings = .ok config.settings ∧
    ∀ answers : Answers, answers.RefuseAsDiscovery →
      (∀ journal cause,
        ((Plan.makeWith config.settings answers).run.run journal).1 = .error cause →
          config.Foresees cause) ∧
      ∀ runId site cause,
        ((Run.executeWith runId config.settings answers).run site).1 = .error (.error cause) →
          config.Foresees cause := by
  have haccepted := Config.accepted_of_parse hparse
  refine ⟨haccepted.daemon, haccepted.least, haccepted.replicaSet, haccepted.settings, ?_⟩
  intro answers hanswers
  constructor
  · intro journal cause hplan
    rw [Plan.makeWith_fst] at hplan
    exact haccepted.foresees_of_plan hanswers hplan
  · intro runId site cause hrun
    have hphases := haccepted.foresees_of_phases hanswers runId site.cluster
    exact (Run.ensures_execute hphases).of_error hrun cause rfl

/-- A configuration of a shard on its own, with a severity in capitals and with a collection that a
shard does not look at. -/
def secludedText : String :=
  "\x7b\"node_name\":\"a\",\"instance_type\":\"shard\",\"replicated\":true,\"solo\":true," ++
    "\"log_level\":\"WARNING\",\"sharded_collections\":\x7b\"app.users\":\"_id\"\x7d\x7d"

def secludedConfig : Config where
  file := { nodeName := "a", instanceType := "shard", replicated := true, solo := true
            logLevel := "WARNING", shardedCollections := Dict.ofList [("app.users", "_id")] }
  daemon := .shard
  least := .warn

/-- There are no nodes at all, so the run is stopped, and for a reason that was foreseen. -/
theorem accepted_config_stays_valid_without_nodes :
    let answers : Answers := fun _ _ => .ok []
    Config.parse secludedText = .ok secludedConfig ∧
      secludedConfig.file.settings = .ok secludedConfig.settings ∧
      answers.RefuseAsDiscovery ∧
      ((Run.executeWith "r" secludedConfig.settings answers).run {}).1 =
        .error (.error (.noMembers "rs_default")) ∧
      secludedConfig.Foresees (.noMembers "rs_default") := by
  intro answers
  have hparse : Config.parse secludedText = .ok secludedConfig :=
    eq_ok_of_toOption (by decide +kernel)
  have hanswers : answers.RefuseAsDiscovery := fun _ _ _ => nofun
  have hrun : ((Run.executeWith "r" secludedConfig.settings answers).run {}).1 =
      .error (.error (.noMembers "rs_default")) := rfl
  obtain ⟨-, -, -, hsettings, hstopped⟩ := accepted_config_stays_valid hparse
  exact ⟨hparse, hsettings, hanswers, hrun, (hstopped answers hanswers).2 _ _ _ hrun⟩

end ClusterConvergence
