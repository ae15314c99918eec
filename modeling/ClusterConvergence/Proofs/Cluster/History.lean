import ClusterConvergence.Proofs.Cluster.Command
import ClusterConvergence.Proofs.ReplicaSet.Successor

/-!
# Histories of a shared cluster

Several reconcilers act on one cluster, in any order and without a lock.  Each of them computes a
successor from a live configuration that it was told some time before, and meanwhile another one may
have replaced that configuration.  What keeps a stale successor out is its version: it is one higher
than that of its base, and the cluster wants it higher than that of the live configuration.

The invariant is `Shared.Coherent`: whatever somebody was told is the live configuration or has a
lower version.
-/

namespace ClusterConvergence

namespace ReplicaConfig

/-- A configuration leads to another one by renaming its members or by an exchange of members. -/
def LeadsTo (base next : ReplicaConfig) : Prop :=
  (∃ newHost, base.renamed newHost = .ok next) ∨
    ∃ desired diff, base.withHosts desired = .ok (next, diff)

namespace LeadsTo

variable {base next : ReplicaConfig}

theorem id_eq (h : base.LeadsTo next) : next.id = base.id := by
  rcases h with ⟨newHost, h⟩ | ⟨desired, diff, h⟩
  · exact (renamed_eq_ok_iff.1 h).1
  · exact (withHosts_eq_ok h).2.1 ▸ rfl

theorem version_eq (h : base.LeadsTo next) : next.version.toNat = base.version.toNat + 1 := by
  rcases h with ⟨newHost, h⟩ | ⟨desired, diff, h⟩
  · exact (renamed_eq_ok_iff.1 h).2.1
  · obtain ⟨hroom, rfl, -⟩ := withHosts_eq_ok h
    exact version_exchanged hroom

end LeadsTo

end ReplicaConfig

/-- What can happen to a cluster that is shared. -/
inductive Deed (ρ : Type) where
  /-- A reconciler opens a session. -/
  | connect (who : ρ) (address : String)
  /-- A reconciler sends a command. -/
  | send (who : ρ) (session : Session) (command : AdminCommand)
  /-- A reconciler gives a session back. -/
  | release (who : ρ)
  /-- A fault will hit the next command of a name. -/
  | inject (command : String) (fault : Fault)

/-- The configurations that the answer to a command tells. -/
def toldBy : AdminCommand → Except Failure Reply → List ReplicaConfig
  | .getConfig _, .ok reply => if reply.isOk then reply.config.toList else []
  | _, _ => []

/-- A shared cluster, and which live configurations the reconcilers were told. -/
structure Shared (ρ : Type) where
  cluster : Cluster
  told : List (ρ × ReplicaConfig) := []

namespace Shared

variable {ρ : Type}

/-- A cluster of which nobody was told anything yet. -/
def fresh (cluster : Cluster) : Shared ρ :=
  { cluster := cluster }

/-- What a deed leaves. -/
def after (shared : Shared ρ) : Deed ρ → Shared ρ
  | .connect _ address => { shared with cluster := (shared.cluster.openSession address).2 }
  | .send who session command =>
    let (result, cluster) := shared.cluster.run session command
    { cluster := cluster, told := (toldBy command result).map (who, ·) ++ shared.told }
  | .release _ => { shared with cluster := shared.cluster.release }
  | .inject command fault => { shared with cluster := shared.cluster.inject command fault }

/-- What reconcilers and their surroundings do.  A replica set is initiated with version 1, a
successor is computed from a configuration that its sender was told, and replies are not forged. -/
def Allows (shared : Shared ρ) : Deed ρ → Prop
  | .send who _ command =>
    match command with
    | .initiate config => ∃ name members, config = .initial name members
    | .reconfig next => ∃ base, (who, base) ∈ shared.told ∧ base.LeadsTo next
    | _ => True
  | .inject _ fault => ∀ reply, fault ≠ .reply reply
  | _ => True

/-- What a list of deeds leaves. -/
def run (shared : Shared ρ) (deeds : List (Deed ρ)) : Shared ρ :=
  deeds.foldl after shared

/-- A history: every deed is one that is allowed when its turn comes. -/
def History (shared : Shared ρ) : List (Deed ρ) → Prop
  | [] => True
  | deed :: deeds => shared.Allows deed ∧ (shared.after deed).History deeds

/-- Whether a deed initiates the replica set. -/
def initiates (shared : Shared ρ) : Deed ρ → Bool
  | .send _ session (.initiate config) => shared.cluster.carriesOut session (.initiate config)
  | _ => false

/-- How often the replica set is initiated. -/
def initiations (shared : Shared ρ) : List (Deed ρ) → Nat
  | [] => 0
  | deed :: deeds =>
    (if shared.initiates deed then 1 else 0) + (shared.after deed).initiations deeds

/-! ## The invariant -/

/-- Replies are not forged, and whatever somebody was told is the live configuration or has a lower
version. -/
structure Coherent (shared : Shared ρ) : Prop where
  unforged : ∀ name, ¬ shared.cluster.Forges name
  told : ∀ who base, (who, base) ∈ shared.told →
    ∃ live, shared.cluster.replicaSet = some live ∧ (base = live ∨ base.version < live.version)

variable {shared : Shared ρ} {deed : Deed ρ} {deeds : List (Deed ρ)}

theorem mem_toldBy {command : AdminCommand} {result : Except Failure Reply} {config : ReplicaConfig}
    (h : config ∈ toldBy command result) :
    ∃ name reply, command = .getConfig name ∧ result = .ok reply ∧ reply.isOk = true ∧
      reply.config = some config := by
  cases command with
  | getConfig name =>
    rcases result with failure | reply
    · cases h
    · rw [toldBy] at h
      split at h
      · next hok => exact ⟨name, reply, rfl, rfl, hok, Option.mem_toList.1 h⟩
      · cases h
  | _ => cases h

namespace Coherent

/-- A command leaves those behind who were told of another live configuration. -/
theorem told_run {base : ReplicaConfig} {who : ρ} (h : shared.Coherent)
    (hbase : (who, base) ∈ shared.told) (session : Session) (command : AdminCommand) :
    ∃ live, (shared.cluster.run session command).2.replicaSet = some live ∧
      (base = live ∨ base.version < live.version) := by
  obtain ⟨live, hlive, hle⟩ := h.told who base hbase
  rcases shared.cluster.run_replicaSet_cases session command with
    hkept | ⟨config, -, hnone, -⟩ | ⟨config, live', -, hlive', hversion, hnext⟩
  · exact ⟨live, hkept.trans hlive, hle⟩
  · cases hnone.symm.trans hlive
  · cases hlive'.symm.trans hlive
    refine ⟨config, hnext, Or.inr ?_⟩
    rcases hle with rfl | hlt
    · exact hversion
    · exact UInt64.lt_trans hlt hversion

/-- Whatever a command tells is the live configuration. -/
theorem live_of_told {base : ReplicaConfig} {session : Session} {command : AdminCommand}
    (h : shared.Coherent)
    (htold : base ∈ toldBy command (shared.cluster.run session command).1) :
    (shared.cluster.run session command).2.replicaSet = some base := by
  obtain ⟨name, reply, rfl, hresult, hok, hconfig⟩ := mem_toldBy htold
  rw [Cluster.run_getConfig_replicaSet]
  exact (Cluster.live_of_getConfig (h.unforged _) hresult hok hconfig).1

/-- Every deed that is allowed keeps the invariant. -/
theorem after (h : shared.Coherent) (hallows : shared.Allows deed) :
    (shared.after deed).Coherent := by
  cases deed with
  | connect who address =>
    constructor
    · rintro name ⟨reply, hmem⟩
      exact h.unforged name ⟨reply, Cluster.openSession_faults _ _ ▸ hmem⟩
    · intro who base hbase
      obtain ⟨live, hlive, hle⟩ := h.told who base hbase
      exact ⟨live, (Cluster.openSession_replicaSet _ _).trans hlive, hle⟩
  | release who => exact ⟨h.unforged, h.told⟩
  | inject command fault =>
    refine ⟨?_, h.told⟩
    rintro name ⟨reply, hmem⟩
    rcases List.mem_append.1 hmem with hmem | hmem
    · exact h.unforged name ⟨reply, hmem⟩
    · cases List.mem_singleton.1 hmem
      exact hallows reply rfl
  | send who session command =>
    constructor
    · exact fun name hforges => h.unforged name hforges.of_run
    · intro who' base hbase
      rcases List.mem_append.1 hbase with hbase | hbase
      · obtain ⟨config, hconfig, heq⟩ := List.mem_map.1 hbase
        cases heq
        exact ⟨base, h.live_of_told hconfig, Or.inl rfl⟩
      · exact h.told_run hbase session command

/-- The version of a successor gives its base away: no other configuration than the live one can
have led to a successor that is put into effect. -/
theorem live_of_carriesOut {who : ρ} {base next : ReplicaConfig} {session : Session}
    (h : shared.Coherent) (hbase : (who, base) ∈ shared.told) (hleads : base.LeadsTo next)
    (hcarried : shared.cluster.carriesOut session (.reconfig next) = true) :
    shared.cluster.replicaSet = some base := by
  obtain ⟨⟨live, hlive, -, hversion, -⟩, -⟩ := Cluster.of_carriesOut_reconfig hcarried
  obtain ⟨live', hlive', hle⟩ := h.told who base hbase
  cases hlive'.symm.trans hlive
  rcases hle with rfl | hlt
  · exact hlive
  · have hnext := hleads.version_eq
    rw [UInt64.lt_iff_toNat_lt] at hversion hlt
    omega

/-- The invariant holds all through a history. -/
theorem run (h : shared.Coherent) (hhistory : shared.History deeds) :
    (shared.run deeds).Coherent := by
  induction deeds generalizing shared with
  | nil => exact h
  | cons deed deeds ih => exact ih (h.after hhistory.1) hhistory.2

end Coherent

theorem history_append {done rest : List (Deed ρ)} :
    shared.History (done ++ rest) ↔ shared.History done ∧ (shared.run done).History rest := by
  induction done generalizing shared with
  | nil => exact ⟨fun h => ⟨trivial, h⟩, And.right⟩
  | cons deed done ih =>
    show shared.Allows deed ∧ (shared.after deed).History (done ++ rest) ↔
      (shared.Allows deed ∧ (shared.after deed).History done) ∧ _
    rw [ih, and_assoc]
    rfl

/-! ## Initiating once -/

theorem replicaSet_after_isSome (h : shared.cluster.replicaSet.isSome = true) :
    (shared.after deed).cluster.replicaSet.isSome = true := by
  cases deed with
  | connect who address =>
    show (shared.cluster.openSession address).2.replicaSet.isSome = true
    rw [Cluster.openSession_replicaSet]
    exact h
  | release who => exact h
  | inject command fault => exact h
  | send who session command =>
    show (shared.cluster.run session command).2.replicaSet.isSome = true
    rcases shared.cluster.run_replicaSet_cases session command with
      hkept | ⟨config, -, -, hnext⟩ | ⟨config, live, -, -, -, hnext⟩
    · exact hkept ▸ h
    · exact hnext ▸ rfl
    · exact hnext ▸ rfl

theorem of_initiates (h : shared.initiates deed = true) :
    shared.cluster.replicaSet = none ∧ (shared.after deed).cluster.replicaSet.isSome = true := by
  cases deed with
  | send who session command =>
    cases command with
    | initiate config =>
      obtain ⟨hnone, hnext⟩ := Cluster.of_carriesOut_initiate h
      exact ⟨hnone, congrArg Option.isSome hnext⟩
    | _ => cases h
  | _ => cases h

/-- A replica set is initiated only while there is none, hence once. -/
theorem initiations_le (shared : Shared ρ) (deeds : List (Deed ρ)) :
    shared.initiations deeds ≤ if shared.cluster.replicaSet.isSome then 0 else 1 := by
  induction deeds generalizing shared with
  | nil => exact Nat.zero_le _
  | cons deed deeds ih =>
    have hrest := ih (shared.after deed)
    rw [initiations]
    cases hinitiates : shared.initiates deed with
    | true =>
      obtain ⟨hnone, hsome⟩ := of_initiates hinitiates
      rw [if_pos hsome] at hrest
      rw [hnone, if_pos rfl, if_neg nofun]
      omega
    | false =>
      rw [if_neg nofun, Nat.zero_add]
      refine Nat.le_trans hrest ?_
      split
      · exact Nat.zero_le _
      · next hnone =>
        split
        · next hlive => exact absurd (replicaSet_after_isSome hlive) hnone
        · exact Nat.le_refl 1

theorem coherent_fresh {cluster : Cluster} (h : ∀ name, ¬ cluster.Forges name) :
    (fresh cluster : Shared ρ).Coherent :=
  ⟨h, nofun⟩

/-! ## No update is lost -/

/-- In every history, a successor that is put into effect takes the place of exactly the
configuration that it was computed from; it belongs to the same replica set and its version is one
higher.  A replica set is initiated only while there is none, and therefore at most once. -/
theorem no_update_is_lost {cluster : Cluster} {deeds : List (Deed ρ)}
    (hunforged : ∀ name, ¬ cluster.Forges name) (hhistory : (fresh cluster).History deeds) :
    (∀ done who session next rest, deeds = done ++ .send who session (.reconfig next) :: rest →
      let before := (fresh cluster).run done
      before.cluster.carriesOut session (.reconfig next) = true →
      ∃ live, before.cluster.replicaSet = some live ∧
        (who, live) ∈ before.told ∧ live.LeadsTo next ∧
        (∀ base, (who, base) ∈ before.told → base.LeadsTo next → base = live) ∧
        (before.after (.send who session (.reconfig next))).cluster.replicaSet = some next ∧
        next.version.toNat = live.version.toNat + 1 ∧ next.id = live.id) ∧
    (∀ done who session config rest, deeds = done ++ .send who session (.initiate config) :: rest →
      let before := (fresh cluster).run done
      before.cluster.carriesOut session (.initiate config) = true →
      before.cluster.replicaSet = none ∧
        (before.after (.send who session (.initiate config))).cluster.replicaSet = some config) ∧
    (fresh cluster).initiations deeds ≤ if cluster.replicaSet.isSome then 0 else 1 := by
  refine ⟨?_, ?_, initiations_le _ deeds⟩
  · intro done who session next rest hdeeds before hcarried
    obtain ⟨hdone, ⟨base, hbase, hleads⟩, -⟩ := history_append.1 (hdeeds ▸ hhistory)
    have hcoherent : before.Coherent := (coherent_fresh hunforged).run hdone
    have hlive := hcoherent.live_of_carriesOut hbase hleads hcarried
    refine ⟨base, hlive, hbase, hleads, ?_, ?_, hleads.version_eq, hleads.id_eq⟩
    · intro base' hbase' hleads'
      have hlive' := hcoherent.live_of_carriesOut hbase' hleads' hcarried
      exact Option.some.inj (hlive'.symm.trans hlive)
    · exact (Cluster.of_carriesOut_reconfig hcarried).2
  · intro done who session config rest hdeeds before hcarried
    exact Cluster.of_carriesOut_initiate hcarried

/-- Two members under version 3. -/
def raceStart : ReplicaConfig :=
  { id := "rs", version := 3, members := [⟨0, "a:1"⟩, ⟨1, "b:1"⟩] }

/-- Two reconcilers are told the same configuration.  The successor of the first one takes effect,
although the connection is lost; that of the second one comes too late. -/
def race : List (Deed Bool) :=
  [.send false ⟨"a:1"⟩ (.getConfig "rs"),
    .send true ⟨"b:1"⟩ (.getConfig "rs"),
    .inject "replSetReconfig" .dropAfterApply,
    .send false ⟨"a:1"⟩ (.reconfig (raceStart.exchanged ["a:1", "c:1"])),
    .send true ⟨"b:1"⟩ (.reconfig (raceStart.exchanged ["a:1", "d:1"]))]

theorem no_update_is_lost_in_race :
    let start : Cluster := { replicaSet := some raceStart }
    let next := raceStart.exchanged ["a:1", "c:1"]
    (∀ name, ¬ start.Forges name) ∧ (fresh start).History race ∧
      ((fresh start).run (race.take 3)).cluster.carriesOut ⟨"a:1"⟩ (.reconfig next) = true ∧
      (∀ base, (false, base) ∈ ((fresh start).run (race.take 3)).told → base.LeadsTo next →
        ((fresh start).run (race.take 3)).cluster.replicaSet = some base) ∧
      ((fresh start).run (race.take 4)).cluster.replicaSet = some next ∧
      ((fresh start).run race).cluster.replicaSet = some next ∧
      (fresh start).initiations race = 0 := by
  intro start next
  have hunforged : ∀ name, ¬ start.Forges name := by
    rintro name ⟨reply, hmem⟩
    cases hmem
  have hfirst : raceStart.LeadsTo next :=
    Or.inr ⟨_, _, ReplicaConfig.withHosts_of_hasRoom (by decide)⟩
  have hsecond : raceStart.LeadsTo (raceStart.exchanged ["a:1", "d:1"]) :=
    Or.inr ⟨_, _, ReplicaConfig.withHosts_of_hasRoom (by decide)⟩
  have hhistory : (fresh start).History race :=
    ⟨trivial, trivial, nofun, ⟨raceStart, by decide, hfirst⟩, ⟨raceStart, by decide, hsecond⟩,
      trivial⟩
  have hcarried : ((fresh start).run (race.take 3)).cluster.carriesOut ⟨"a:1"⟩ (.reconfig next) =
    true := by decide
  obtain ⟨hreconfig, -, hinitiations⟩ := no_update_is_lost hunforged hhistory
  obtain ⟨live, hlive, -, -, hunique, hnext, -⟩ :=
    hreconfig (race.take 3) false ⟨"a:1"⟩ next (race.drop 4) rfl hcarried
  refine ⟨hunforged, hhistory, hcarried, ?_, hnext, by decide, Nat.le_zero.1 hinitiations⟩
  intro base hbase hleads
  rw [hunique base hbase hleads]
  exact hlive

end Shared

end ClusterConvergence
