import ClusterConvergence.Proofs.Cluster.History
import ClusterConvergence.Proofs.ReplicaSet.Members
import ClusterConvergence.Proofs.Sharding.Distribution

/-!
# The integrity of a cluster

Nobody is trusted here: any commands are sent over any sessions, whatever faults are waiting, forged
replies among them.  A cluster stays sound all the same, since it checks each command by itself.
`Transition` is all that a command can do to what a cluster holds, with what the cluster checked
before; that a cluster stays sound and that it only grows are read off it.

Main statement: `Shared.integrity_is_kept`.
-/

namespace ClusterConvergence

/-- What a cluster holds, apart from what is arranged around it and what it remembers. -/
structure Holdings extends Distribution where
  replicaSet : Option ReplicaConfig
  shards : List String

/-- What this cluster holds. -/
def Cluster.holdings (cluster : Cluster) : Holdings where
  toDistribution := cluster.distribution
  replicaSet := cluster.replicaSet
  shards := cluster.shards

/-- All that a command can do to what a cluster holds. -/
inductive Transition (before : Holdings) : Holdings → Prop where
  | nothing : Transition before before
  | initiated {config : ReplicaConfig} (hnone : before.replicaSet = none)
    (hdefect : config.defect? = none) :
    Transition before { before with replicaSet := some config }
  | reconfigured {live config : ReplicaConfig} (hlive : before.replicaSet = some live)
    (hid : config.id = live.id) (hversion : live.version < config.version)
    (hdefect : config.defect? = none) :
    Transition before { before with replicaSet := some config }
  | added {shard : String} (hnew : shard ∉ before.shards) :
    Transition before { before with shards := before.shards ++ [shard] }
  | enabled (name : String) :
    Transition before { before with databases := before.databases.add name }
  | sharded {ns : String} (key : Dict Int32)
    (henabled : before.databases.contains (splitNamespace ns).1 = true)
    (hnew : ¬ before.collections.contains ns = true) :
    Transition before { before with collections := before.collections.insert ns key }

namespace Cluster

variable {cluster : Cluster}

theorem apply_transition (cluster : Cluster) (address : String) (command : AdminCommand) :
    Transition cluster.holdings (cluster.apply address command).2.holdings := by
  cases command with
  | hello => exact .nothing
  | getConfig => exact .nothing
  | initiate config =>
    rw [apply]
    rcases cluster.initiate_cases config with ⟨hnone, hdefect, h⟩ | ⟨_, -, h⟩ | ⟨-, _, -, h⟩ <;>
      rw [h]
    · exact .initiated hnone hdefect
    · exact .nothing
    · exact .nothing
  | reconfig config =>
    rw [apply]
    rcases cluster.reconfig_cases config with ⟨live, hlive, hid, hversion, hdefect, h⟩ | ⟨-, h⟩ <;>
      rw [h]
    · exact .reconfigured hlive hid hversion hdefect
    · exact .nothing
  | addShard shard =>
    rw [apply, addShard]
    split
    · exact .nothing
    · next hnew => exact .added (mt List.contains_iff_mem.2 hnew)
  | enableSharding database =>
    rw [apply, enableSharding]
    split
    · exact .nothing
    · exact .enabled database
  | shardCollection ns key =>
    rw [apply, shardCollection]
    dsimp only
    split
    · exact .nothing
    · next hdatabase =>
      have henabled : cluster.databases.contains (splitNamespace ns).1 = true := by
        simpa using hdatabase
      split
      · exact .nothing
      · next hnew => exact .sharded key henabled hnew

/-- Faults may take a command away, but they do not change what it does. -/
theorem run_transition (cluster : Cluster) (session : Session) (command : AdminCommand) :
    Transition cluster.holdings (cluster.run session command).2.holdings := by
  cases hcarried : cluster.carriesOut session command with
  | false =>
    rw [run_of_not_carriesOut hcarried]
    exact .nothing
  | true =>
    rw [run_of_carriesOut hcarried]
    exact (cluster.received command).apply_transition session.address command

theorem openSession_holdings (cluster : Cluster) (address : String) :
    (cluster.openSession address).2.holdings = cluster.holdings := by
  rw [openSession]
  split <;> rfl

end Cluster

namespace Holdings

/-- What a cluster holds fits together: the live configuration has no defect, no shard is registered
twice, and every sharded collection is in a database that is enabled. -/
structure Sound (holdings : Holdings) : Prop where
  live : ∀ live, holdings.replicaSet = some live →
    live.members ≠ [] ∧ live.ids.Nodup ∧ live.hosts.Nodup
  shards : holdings.shards.Nodup
  enabled : ∀ ns, holdings.collections.contains ns = true →
    holdings.databases.contains (splitNamespace ns).1 = true

/-- The replica set stays the same one, and its configuration changes only to one with a higher
version.  Nothing that was registered, enabled or sharded is taken away. -/
structure Grows (before after : Holdings) : Prop where
  live : ∀ live, before.replicaSet = some live → ∃ next, after.replicaSet = some next ∧
    next.id = live.id ∧ (next = live ∨ live.version < next.version)
  shards : before.shards <+: after.shards
  distribution : before.toDistribution.Grows after.toDistribution

namespace Grows

variable {a b c : Holdings}

theorem refl (holdings : Holdings) : holdings.Grows holdings where
  live := fun live hlive => ⟨live, hlive, rfl, Or.inl rfl⟩
  shards := List.prefix_refl _
  distribution := .refl _

theorem trans (hab : a.Grows b) (hbc : b.Grows c) : a.Grows c where
  live := by
    intro first hfirst
    obtain ⟨second, hsecond, hid, hle⟩ := hab.live first hfirst
    obtain ⟨third, hthird, hid', hle'⟩ := hbc.live second hsecond
    refine ⟨third, hthird, hid'.trans hid, ?_⟩
    -- a version that was raised once is not reached again
    rcases hle' with rfl | hlt'
    · exact hle
    · rcases hle with rfl | hlt
      · exact Or.inr hlt'
      · exact Or.inr (UInt64.lt_trans hlt hlt')
  shards := hab.shards.trans hbc.shards
  distribution := hab.distribution.trans hbc.distribution

end Grows

/-- A cluster without shards and without anything distributed; a replica set is in order, if there
is one. -/
structure Bare (holdings : Holdings) : Prop where
  live : ∀ live, holdings.replicaSet = some live →
    live.members ≠ [] ∧ live.ids.Nodup ∧ live.hosts.Nodup
  shards : holdings.shards = []
  databases : holdings.databases = Dict.empty
  collections : holdings.collections = Dict.empty

variable {holdings : Holdings}

theorem Bare.sound (h : holdings.Bare) : holdings.Sound where
  live := h.live
  shards := h.shards ▸ List.nodup_nil
  enabled := by
    rw [h.collections]
    exact nofun

end Holdings

namespace Transition

open Holdings

variable {before after : Holdings}

theorem grows (h : Transition before after) : before.Grows after := by
  have same := Grows.refl before
  cases h with
  | nothing => exact same
  | initiated hnone =>
    refine ⟨fun live hlive => ?_, same.shards, same.distribution⟩
    cases hnone.symm.trans hlive
  | @reconfigured live config hlive hid hversion =>
    refine ⟨fun live' hlive' => ?_, same.shards, same.distribution⟩
    cases hlive.symm.trans hlive'
    exact ⟨config, rfl, hid, Or.inr hversion⟩
  | added => exact ⟨same.live, List.prefix_append _ _, same.distribution⟩
  | enabled name => exact ⟨same.live, same.shards, .enable _ name⟩
  | sharded key _ hnew => exact ⟨same.live, same.shards, .shard hnew key⟩

theorem sound (h : Transition before after) (hsound : before.Sound) : after.Sound := by
  obtain ⟨hlive, hshards, henabled⟩ := hsound
  cases h with
  | nothing => exact ⟨hlive, hshards, henabled⟩
  | initiated _ hdefect | reconfigured _ _ _ hdefect =>
    refine ⟨?_, hshards, henabled⟩
    rintro _ ⟨⟩
    exact ReplicaConfig.defect?_eq_none_iff.1 hdefect
  | added hnew =>
    refine ⟨hlive, ?_, henabled⟩
    rw [← List.concat_eq_append]
    exact hshards.concat hnew
  | enabled name =>
    refine ⟨hlive, hshards, fun ns hns => ?_⟩
    exact (Distribution.Grows.enable before.toDistribution name).databases _ (henabled ns hns)
  | @sharded ns key hdatabase hnew =>
    refine ⟨hlive, hshards, fun other hother => ?_⟩
    by_cases heq : ns = other
    · exact heq ▸ hdatabase
    · rw [Dict.contains, Dict.get?_insert, if_neg heq] at hother
      exact henabled other hother

end Transition

namespace Shared

variable {ρ : Type} {shared : Shared ρ}

theorem after_transition (shared : Shared ρ) (deed : Deed ρ) :
    Transition shared.cluster.holdings (shared.after deed).cluster.holdings := by
  cases deed with
  | connect who address =>
    rw [after, Cluster.openSession_holdings]
    exact .nothing
  | send who session command => exact shared.cluster.run_transition session command
  | release who => exact .nothing
  | inject command fault => exact .nothing

/-- Any deeds, whether they are allowed or not, leave a sound cluster that has only grown. -/
theorem run_sound (hsound : shared.cluster.holdings.Sound) (deeds : List (Deed ρ)) :
    (shared.run deeds).cluster.holdings.Sound ∧
      shared.cluster.holdings.Grows (shared.run deeds).cluster.holdings := by
  induction deeds generalizing shared with
  | nil => exact ⟨hsound, .refl _⟩
  | cons deed deeds ih =>
    have hstep := shared.after_transition deed
    obtain ⟨hend, hgrows⟩ := ih (hstep.sound hsound)
    exact ⟨hend, hstep.grows.trans hgrows⟩

/-- Whatever is done to a cluster that starts without shards, what it holds fits together at any
time.  From any time to any later one, the replica set stays the same one and gets higher versions
with each change, and no sharded collection is lost or gets another key. -/
theorem integrity_is_kept {start : Cluster} (hstart : start.holdings.Bare)
    (done rest : List (Deed ρ)) :
    let earlier := ((fresh start).run done).cluster.holdings
    let later := ((fresh start).run (done ++ rest)).cluster.holdings
    earlier.Sound ∧ later.Sound ∧ earlier.Grows later := by
  intro earlier later
  obtain ⟨hearlier, -⟩ : earlier.Sound ∧ _ := run_sound hstart.sound done
  obtain ⟨hlater, hgrows⟩ := run_sound hearlier rest
  have hrun : later = (((fresh start).run done).run rest).cluster.holdings := by
    simp only [later, run, List.foldl_append]
  exact ⟨hearlier, hrun ▸ hlater, hrun ▸ hgrows⟩

/-- A replica set with one member, and nothing else. -/
def unrulyStart : Cluster :=
  { replicaSet := some { id := "rs", version := 1, members := [⟨0, "a:1"⟩] } }

/-- A collection is sharded before its database is enabled, and again with another key; a shard is
registered twice; a connection is lost; a version is used twice. -/
def unruly : List (Deed Unit) :=
  let send := Deed.send () ⟨"r:1"⟩
  [.inject "enablesharding" (.reply .success),
    send (.enableSharding "app"),
    send (.shardCollection "app.users" (Dict.empty.insert "name" 1)),
    .inject "enablesharding" .timeoutAfterApply,
    send (.enableSharding "app"),
    send (.shardCollection "app.users" (Dict.empty.insert "user_id" 1)),
    send (.shardCollection "app.users" (Dict.empty.insert "name" 1)),
    send (.addShard "s/b:1"),
    send (.addShard "s/b:1"),
    .inject "replSetReconfig" .dropAfterApply,
    send (.reconfig { id := "rs", version := 7, members := [⟨3, "b:1"⟩] }),
    send (.reconfig { id := "rs", version := 7, members := [⟨4, "c:1"⟩] }),
    send (.initiate { id := "other", version := 9, members := [⟨0, "d:1"⟩] })]

theorem integrity_is_kept_in_disorder :
    let earlier := ((fresh unrulyStart).run (unruly.take 6)).cluster.holdings
    let later := ((fresh unrulyStart).run unruly).cluster.holdings
    unrulyStart.holdings.Bare ∧ (earlier.Sound ∧ later.Sound ∧ earlier.Grows later) ∧
      earlier.replicaSet = some { id := "rs", version := 1, members := [⟨0, "a:1"⟩] } ∧
      later.replicaSet = some { id := "rs", version := 7, members := [⟨3, "b:1"⟩] } ∧
      later.shards = ["s/b:1"] ∧
      later.collections = Dict.empty.insert "app.users" (Dict.empty.insert "user_id" 1) := by
  intro earlier later
  have hbare : unrulyStart.holdings.Bare := by
    refine ⟨?_, rfl, rfl, rfl⟩
    rintro _ ⟨⟩
    decide
  have hheld : earlier.replicaSet = some { id := "rs", version := 1, members := [⟨0, "a:1"⟩] } ∧
      later.replicaSet = some { id := "rs", version := 7, members := [⟨3, "b:1"⟩] } ∧
      later.shards = ["s/b:1"] ∧
      later.collections = Dict.empty.insert "app.users" (Dict.empty.insert "user_id" 1) := by
    decide +kernel
  exact ⟨hbare, integrity_is_kept hbare (unruly.take 6) (unruly.drop 6), hheld⟩

end Shared

end ClusterConvergence
