import ClusterConvergence.Proofs.ReplicaSet.Transcript
import ClusterConvergence.Proofs.Run.Phase
import ClusterConvergence.Proofs.Sharding.Collection
import ClusterConvergence.Proofs.Sharding.Routing

/-!
# The course of a run

A run speaks to the cluster in three parts: about its replica set, then about shards, and at last
about collections.  Each part is that of one phase, and a run that stops early leaves out the parts
that would come later.  `Run.Course` is the shape of all three; every run keeps to it, whatever faults
hit its commands and whoever answers its queries (`Run.ensures_phases_course`).

Main statement: `says_in_order` gives the order of the commands on the log of the cluster.
-/

namespace ClusterConvergence

open Activity

/-- The first part of a list of two parts ends where the second one begins. -/
theorem exists_append_of_prefix {α : Type} {l front back : List α} (h : l <+: front ++ back) :
    ∃ x y, l = x ++ y ∧ x <+: front ∧ y <+: back ∧ (y ≠ [] → x = front) := by
  obtain ⟨rest, hrest⟩ := h
  rcases List.append_eq_append_iff.1 hrest with ⟨left, hfront, -⟩ | ⟨begun, hl, hback⟩
  · exact ⟨l, [], by simp, ⟨left, hfront.symm⟩, List.nil_prefix, fun h => absurd rfl h⟩
  · exact ⟨front, begun, hl, List.prefix_refl front, ⟨rest, hback.symm⟩, fun _ => rfl⟩

namespace Settings

/-- The items of the shards among the nodes that are discovered, if there is an answer. -/
def shardItems (settings : Settings) (answers : Answers) (place : Nat) : List Item :=
  (ShardSpec.ofNodes ((answers place settings.shardQuery).toOption.getD [])).map
    fun spec => .shard spec.text

/-- The collections as they are given. -/
def givenCollections (settings : Settings) : List ShardedCollection :=
  settings.collections.entries.map fun e => ⟨e.1, e.2⟩

end Settings

namespace Run

/-! ## Three parts -/

/-- What is said about the replica set: nothing, or what is said to converge it with the candidates
that were discovered. -/
def OwnPart (settings : Settings) (answers : Answers) (place : Nat) (own : List Exchange) : Prop :=
  own = [] ∨ ∃ name candidates mute, settings.replicaSet = some name ∧
    answers place settings.replicaSetQuery = .ok candidates ∧
    Converging mute name (.ofCandidates candidates) own

/-- What is said to submit items: the commands of some of the first of them. -/
def ItemsPart (items : List Item) (exchanges : List Exchange) : Prop :=
  exchanges.map Exchange.command <+: items.map Item.command

theorem ItemsPart.nil (items : List Item) : ItemsPart items [] :=
  List.nil_prefix

/-- What a run says.  The places of its queries depend on which ones are asked before. -/
structure Course (settings : Settings) (answers : Answers) (own added sharded : List Exchange) :
    Prop where
  replicaSet : OwnPart settings answers (if settings.daemon.isRouter then 1 else 0) own
  shards : ItemsPart (settings.shardItems answers (if settings.replicaSet.isSome then 2 else 1)) added
  collections : ItemsPart (shardingItems settings.givenCollections) sharded
  other : settings.daemon.isRouter = false → added = [] ∧ sharded = []

/-- Between two states of the cluster a run has said what it says. -/
def Followed (settings : Settings) (answers : Answers) (before after : Cluster) : Prop :=
  ∃ own added sharded, Dialogue before (own ++ added ++ sharded) after ∧
    Course settings answers own added sharded

variable {cluster : Cluster} {settings : Settings} {answers : Answers} {place : Nat}

/-! ## The phases keep to them -/

theorem ensures_convergeOwn_part :
    Ensures cluster (convergeOwn settings answers place)
      (fun replicaSet c => replicaSet.map ReplicaSetReport.name = settings.replicaSet ∧
        Said cluster (OwnPart settings answers place) c)
      fun _ c => Said cluster (OwnPart settings answers place) c := by
  have hsilent : Said cluster (OwnPart settings answers place) cluster :=
    ⟨[], .nil cluster, Or.inl rfl⟩
  refine ensures_convergeOwn ?_ ?_ ?_
  · exact fun hnone => ⟨hnone.symm, hsilent⟩
  · exact fun _ _ _ _ => hsilent
  · intro name hname candidates hcandidates
    have hpart : ∀ {c : Cluster}, Said cluster
        (Converging (Mute cluster settings.port candidates) name (.ofCandidates candidates)) c →
        Said cluster (OwnPart settings answers place) c := by
      rintro c ⟨exchanges, hsaid, hshape⟩
      exact ⟨exchanges, hsaid, Or.inr ⟨name, candidates, _, hname, hcandidates, hshape⟩⟩
    refine (convergeReplicaSet_said cluster settings.port settings.solo name candidates).mono ?_ ?_
    · exact fun _ _ h => ⟨hname.symm, hpart h⟩
    · exact fun _ _ h => hpart h

/-- Whether the shards were discovered decides whether anything is said. -/
theorem ensures_shardsPhase_part :
    Ensures cluster (shardsPhase settings answers place)
      (fun outcomes c =>
        outcomes.map ItemOutcome.item = settings.shardItems answers place ∧
          Said cluster (ItemsPart (settings.shardItems answers place)) c)
      fun _ c => c = cluster := by
  refine ensures_shardsPhase ?_ fun _ _ => rfl
  intro nodes hnodes
  have hitems : settings.shardItems answers place =
      (ShardSpec.ofNodes nodes).map fun spec => .shard spec.text := by
    simp [Settings.shardItems, hnodes, Except.toOption]
  rw [hitems]
  exact Yields.bind (Yields.report (submitItems_said _ _))

theorem ensures_collections_part {collections : List ShardedCollection}
    {halt : Abort → Cluster → Prop}
    (hparsed : ShardedCollection.parseAll settings.collections = .ok collections) :
    Ensures cluster (if collections.isEmpty then pure [] else collectionsPhase settings)
      (fun outcomes c =>
        outcomes.map ItemOutcome.item = shardingItems settings.givenCollections ∧
          Said cluster (ItemsPart (shardingItems settings.givenCollections)) c)
      halt := by
  have hgiven : settings.givenCollections = collections :=
    (ShardedCollection.eq_of_parseAll hparsed).symm
  rw [hgiven]
  split
  · next hempty =>
    rw [List.isEmpty_iff.1 hempty]
    exact Ensures.pure ⟨rfl, [], .nil cluster, ItemsPart.nil _⟩
  · exact ensures_collectionsPhase hparsed (submitItems_said _ _)

/-- The items of which a run tells what became: on the routing layer all shards, all databases and
all collections, elsewhere none. -/
structure Accounts (settings : Settings) (answers : Answers) (report : Report) : Prop where
  replicaSet : report.replicaSet.map ReplicaSetReport.name = settings.replicaSet
  shards : report.shards.map ItemOutcome.item = if settings.daemon.isRouter then
    settings.shardItems answers (if settings.replicaSet.isSome then 2 else 1) else []
  sharding : report.sharding.map ItemOutcome.item = if settings.daemon.isRouter then
    shardingItems settings.givenCollections else []

/-- A run may stop behind its first part. -/
theorem Followed.of_own {after : Cluster}
    (h : Said cluster (OwnPart settings answers (if settings.daemon.isRouter then 1 else 0)) after) :
    Followed settings answers cluster after := by
  obtain ⟨own, hsaid, hown⟩ := h
  refine ⟨own, [], [], by simpa using hsaid, hown, ItemsPart.nil _, ItemsPart.nil _, ?_⟩
  exact fun _ => ⟨rfl, rfl⟩

theorem Followed.refl : Followed settings answers cluster cluster :=
  .of_own ⟨[], .nil cluster, Or.inl rfl⟩

/-- Every run keeps to its course, and accounts for all of it if there is a report. -/
theorem ensures_phases_course (runId : String) :
    Ensures cluster (phases runId settings answers)
      (fun report c => Accounts settings answers report ∧ Followed settings answers cluster c)
      fun _ c => Followed settings answers cluster c := by
  cases hdaemon : settings.daemon.isRouter with
  | false =>
    have hfirst : ∀ {c : Cluster}, Said cluster (OwnPart settings answers 0) c →
        Followed settings answers cluster c :=
      fun h => .of_own (by simpa [hdaemon] using h)
    refine ensures_phases_of_other hdaemon (fun _ _ => .refl) fun collections hparsed => ?_
    refine ensures_convergeOwn_part.mono ?_ fun _ _ => hfirst
    rintro replicaSet c ⟨hname, hown⟩
    exact ⟨⟨hname, by simp [hdaemon], by simp [hdaemon]⟩, hfirst hown⟩
  | true =>
    have hfirst : ∀ {c : Cluster}, Said cluster (OwnPart settings answers 1) c →
        Followed settings answers cluster c :=
      fun h => .of_own (by simpa [hdaemon] using h)
    refine ensures_phases_of_router hdaemon (fun _ _ => .refl) (fun _ _ _ _ => .refl) ?_
    intro collections count hparsed _
    refine ensures_convergeOwn_part.mono ?_ fun _ _ => hfirst
    rintro replicaSet c ⟨hname, hown⟩
    refine ensures_shardsPhase_part.mono ?_ ?_
    · rintro shards c₁ ⟨hshards, added, hsaid₁, hadded⟩
      refine (ensures_collections_part hparsed).mono ?_ fun _ _ h => h
      rintro sharding c₂ ⟨hsharding, sharded, hsaid₂, hsharded⟩
      obtain ⟨own, hsaid, hown⟩ := hown
      refine ⟨⟨hname, by simp [hdaemon, hshards], by simp [hdaemon, hsharding]⟩,
        own, added, sharded, (hsaid.trans hsaid₁).trans hsaid₂, ?_, hadded, hsharded, ?_⟩
      · simpa [hdaemon] using hown
      · simp [hdaemon]
    · -- the shards were not discovered
      rintro - c₁ rfl
      exact hfirst hown

end Run

/-! ## The order on the log -/

/-- The names of the commands that are about a replica set. -/
def replicaSetCommands : List String :=
  ["hello", "replSetInitiate", "replSetGetConfig", "replSetReconfig"]

theorem Adjusting.name_mem {desired : DesiredMembers} {live : ReplicaConfig}
    {exchanges : List Exchange} (h : Adjusting desired live exchanges) :
    ∀ e ∈ exchanges, e.command.name ∈ replicaSetCommands := by
  have hhellos : ∀ {hellos : List Exchange}, (∀ e ∈ hellos, e.command = .hello) →
      ∀ e ∈ hellos, e.command.name ∈ replicaSetCommands := by
    intro hellos hhello e hmem
    rw [hhello e hmem]
    exact List.mem_cons_self
  cases h with
  | searched hhello => exact hhellos hhello
  | sent hhello _ hsending =>
    refine List.forall_mem_append.2 ⟨hhellos hhello, ?_⟩
    cases hsending <;> simp [AdminCommand.name, replicaSetCommands]

theorem Converging.name_mem {mute : Prop} {name : String} {desired : DesiredMembers}
    {exchanges : List Exchange} (h : Converging mute name desired exchanges) :
    ∀ e ∈ exchanges, e.command.name ∈ replicaSetCommands := by
  cases h with
  | silent => simp
  | initiating | reading => simp [AdminCommand.name, replicaSetCommands]
  | adjusting _ _ hrest =>
    have hlater := hrest.name_mem
    simpa [AdminCommand.name, replicaSetCommands] using hlater

theorem Run.OwnPart.name_mem {settings : Settings} {answers : Answers} {place : Nat}
    {own : List Exchange} (h : OwnPart settings answers place own) :
    ∀ e ∈ own, e.command.name ∈ replicaSetCommands := by
  rcases h with rfl | ⟨_, _, _, -, -, hshape⟩
  · simp
  · exact hshape.name_mem

theorem Run.OwnPart.eq_nil {settings : Settings} {answers : Answers} {place : Nat}
    {own : List Exchange} (h : OwnPart settings answers place own)
    (hnone : settings.replicaSet = none) : own = [] := by
  rcases h with rfl | ⟨name, _, _, hname, -, -⟩
  · rfl
  · cases hnone.symm.trans hname

/-- The log of the cluster shows the order of a run.  First come the commands about its replica set,
then the shards in their order, then the databases in ascending order, each once, and then the
collections in ascending order, each with its key ascending.  All that can be missing is the end of a
part; no collection is sharded before every database was enabled.  Without a replica set the first
part is empty, and so are the others anywhere but on the routing layer.  This holds for every run:
whoever answers its queries, whatever faults hit its commands, and however it ends. -/
theorem says_in_order (runId : String) (settings : Settings) (answers : Answers) (site : Site) :
    let after := ((Run.executeWith runId settings answers).run site).2.cluster
    let shardNodes := (answers (if settings.replicaSet.isSome then 2 else 1) settings.shardQuery)
    let specs := (ShardSpec.ofNodes (shardNodes.toOption.getD [])).map ShardSpec.text
    let collections := settings.givenCollections
    let databases := ShardedCollection.databases collections
    ∃ own added enabled sharded : List AdminCommand,
      after.commands = site.cluster.commands ++ (own ++ added ++ enabled ++ sharded) ∧
      (∀ command ∈ own, command.name ∈ replicaSetCommands) ∧
      added <+: specs.map .addShard ∧
      enabled <+: databases.map .enableSharding ∧
      sharded <+: collections.map (fun c => .shardCollection c.ns (Dict.empty.insert c.key 1)) ∧
      (sharded ≠ [] → enabled = databases.map .enableSharding) ∧
      (settings.replicaSet = none → own = []) ∧
      (settings.daemon.isRouter = false → added = [] ∧ enabled = [] ∧ sharded = []) ∧
      collections.Pairwise (fun a b => a.ns < b.ns) ∧ databases.Pairwise (· < ·) ∧
      ∀ database, database ∈ databases ↔ database ∈ collections.map ShardedCollection.database := by
  intro after shardNodes specs collections databases
  have hcourse : Run.Followed settings answers site.cluster after :=
    Ensures.leaves (Run.ensures_execute ((Run.ensures_phases_course runId).mono
      (fun _ _ h => h.2) fun _ _ h => h))
  obtain ⟨own, added, sharding, hsaid, hcourse⟩ := hcourse
  have hspecs : (settings.shardItems answers (if settings.replicaSet.isSome then 2 else 1)).map
      Item.command = specs.map .addShard := by
    simp [Settings.shardItems, specs, shardNodes, Item.command, Function.comp_def]
  have hsharding : (shardingItems collections).map Item.command =
      databases.map .enableSharding ++
        collections.map (fun c => .shardCollection c.ns (Dict.empty.insert c.key 1)) := by
    simp [shardingItems, databases, Item.command, ShardedCollection.keyDocument,
      Function.comp_def]
  have hadded : added.map Exchange.command <+: specs.map .addShard := by
    rw [← hspecs]
    exact hcourse.shards
  have hitems : sharding.map Exchange.command <+: databases.map .enableSharding ++
      collections.map (fun c => .shardCollection c.ns (Dict.empty.insert c.key 1)) := by
    rw [← hsharding]
    exact hcourse.collections
  obtain ⟨enabled, sharded, hparts, henabled, hsharded, hall⟩ := exists_append_of_prefix hitems
  refine ⟨own.map Exchange.command, added.map Exchange.command, enabled, sharded, ?_, ?_, hadded,
    henabled, hsharded, hall, ?_, ?_, ?_, ?_, ?_⟩
  · rw [hsaid.commands]
    simp [hparts]
  · exact List.forall_mem_map.2 hcourse.replicaSet.name_mem
  · intro hnone
    simp [hcourse.replicaSet.eq_nil hnone]
  · intro hother
    obtain ⟨rfl, rfl⟩ := hcourse.other hother
    have hempty : enabled ++ sharded = [] := by simpa using hparts.symm
    exact ⟨rfl, List.append_eq_nil_iff.1 hempty⟩
  · exact List.pairwise_map.2 settings.collections.ascending
  · exact ShardedCollection.pairwise_databases collections
  · exact fun _ => ShardedCollection.mem_databases

end ClusterConvergence
