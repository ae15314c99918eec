import Mathlib.Algebra.Group.Nat.Defs
import Mathlib.Data.Finset.Card
import ClusterConvergence.Proofs.ReplicaSet.Successor

/-!
# What an exchange of members is

The successor of a live configuration whose hosts are the desired ones, described without the way in
which it is computed: who stays and where, who joins in which order and with which ids, and what is
reported as changed (`Exchange`).

Main statement: `exchange_of_members`, which also says exactly when there is no such successor because
the numbers run out.
-/

namespace ClusterConvergence

/-- What is left of a list without repetitions stands in the order in which it first came. -/
theorem pairwise_idxOf_eraseDups (l : List String) (p : String → Bool) :
    (l.filter p).eraseDups.Pairwise fun a b => l.idxOf a < l.idxOf b := by
  induction l generalizing p with
  | nil => exact List.Pairwise.nil
  | cons a l ih =>
    -- behind the head, every place is one further back
    have hshift : ∀ q : String → Bool, (∀ b, q b = true → b ≠ a) →
        (l.filter q).eraseDups.Pairwise fun b c => (a :: l).idxOf b < (a :: l).idxOf c := by
      intro q hq
      refine (ih q).imp_of_mem fun hb hc hlt => ?_
      have hne : ∀ {b}, b ∈ (l.filter q).eraseDups → b ≠ a := fun hb =>
        hq _ (List.mem_filter.1 (List.mem_eraseDups.1 hb)).2
      rw [List.idxOf_cons_ne _ (hne hb).symm, List.idxOf_cons_ne _ (hne hc).symm]
      exact Nat.succ_lt_succ hlt
    by_cases hp : p a = true
    · rw [List.filter_cons_of_pos hp, List.eraseDups_cons, List.filter_filter, List.pairwise_cons]
      have hother : ∀ b, (!b == a && p b) = true → b ≠ a := by
        simp +contextual
      refine ⟨fun b hb => ?_, hshift _ hother⟩
      have hne : b ≠ a := hother b (List.mem_filter.1 (List.mem_eraseDups.1 hb)).2
      rw [List.idxOf_cons_self, List.idxOf_cons_ne _ hne.symm]
      exact Nat.succ_pos _
    · rw [List.filter_cons_of_neg hp]
      refine hshift p ?_
      rintro b hb rfl
      exact hp hb

namespace Member

/-- Numbered members have consecutive ids. -/
theorem id_getElem_numbered {n : Nat} {hosts : List String}
    (hfit : n + hosts.length ≤ UInt32.size) {i : Nat} (hi : i < (numbered n hosts).length) :
    (numbered n hosts)[i].id.toNat = n + i := by
  have hlength : (numbered n hosts).length = hosts.length := by simp [numbered]
  have hid : (numbered n hosts)[i].id = UInt32.ofNat (n + i) := by simp [numbered]
  rw [hid, UInt32.toNat_ofNat_of_lt' (show n + i < UInt32.size by omega)]

end Member

namespace ReplicaConfig

variable {live next : ReplicaConfig} {desired : List String}

theorem length_added :
    (live.diff desired).added.length = (desired.toFinset \ live.hosts.toFinset).card := by
  rw [← List.toFinset_card_of_nodup nodup_added]
  congr 1
  ext host
  simp [mem_added]

theorem hasRoom_iff :
    live.HasRoom desired ↔ live.version.toNat < 2 ^ 64 - 1 ∧
      live.freshNat + (desired.toFinset \ live.hosts.toFinset).card ≤ 2 ^ 32 - 1 := by
  rw [HasRoom, length_added]
  show _ < 2 ^ 32 ∧ _ < 2 ^ 64 ↔ _
  omega

/-- `next` takes the place of `live` so that the hosts become the desired ones, and `diff` tells what
changed. -/
structure Exchange (live : ReplicaConfig) (desired : List String) (next : ReplicaConfig)
    (diff : MemberDiff) : Prop where
  id : next.id = live.id
  version : next.version.toNat = live.version.toNat + 1
  /-- Those that stay keep id, host and place; those that join are numbered consecutively, from above
  every id in use. -/
  members : ∃ joined : List Member,
    next.members = live.members.filter (fun m => m.host ∈ desired) ++ joined ∧
      joined.map (·.host) = diff.added ∧
      ∀ i (hi : i < joined.length), joined[i].id.toNat = live.freshNat + i
  hosts : ∀ host, host ∈ next.hosts ↔ host ∈ desired
  removed : diff.removed = (live.members.filter fun m => m.host ∉ desired).map (·.host)
  added : ∀ host, host ∈ diff.added ↔ host ∈ desired ∧ host ∉ live.hosts
  /-- Each new host counts where it is first desired, and so it is listed once. -/
  order : diff.added.Pairwise fun a b => desired.idxOf a < desired.idxOf b
  distinct_ids : live.ids.Nodup → next.ids.Nodup
  distinct_hosts : live.hosts.Nodup → next.hosts.Nodup
  empty : diff.isEmpty = true ↔ ∀ host, host ∈ live.hosts ↔ host ∈ desired

theorem exchange_exchanged (hroom : live.HasRoom desired) :
    live.Exchange desired (live.exchanged desired) (live.diff desired) where
  id := rfl
  version := version_exchanged hroom
  members := by
    refine ⟨live.joined desired, ?_, Member.map_host_numbered _ _, fun i hi => ?_⟩
    · simp [exchanged, kept]
    · exact Member.id_getElem_numbered (Nat.le_of_lt hroom.1) hi
  hosts _ := mem_hosts_exchanged
  removed := by
    rw [diff, ReplicaConfig.hosts, List.filter_map]
    simp [Function.comp_def]
  added _ := mem_added
  order := pairwise_idxOf_eraseDups desired _
  distinct_ids := nodup_ids_exchanged hroom
  distinct_hosts := nodup_hosts_exchanged
  empty := diff_isEmpty_iff

/-- There is a successor with the desired hosts exactly if the next version exists and so do all ids up
to the one behind the last that is handed out.  The ids are counted from the first one above every id
in use, which is 0 if there are no members, and each new host takes one, however often it is desired.
The successor is an exchange of members. -/
theorem exchange_of_members (live : ReplicaConfig) (desired : List String) :
    (∀ n, live.freshNat ≤ n ↔ ∀ m ∈ live.members, m.id.toNat < n) ∧
    ((∃ result, live.withHosts desired = .ok result) ↔
      live.version.toNat < 2 ^ 64 - 1 ∧
        live.freshNat + (desired.toFinset \ live.hosts.toFinset).card ≤ 2 ^ 32 - 1) ∧
    ∀ next diff, live.withHosts desired = .ok (next, diff) → live.Exchange desired next diff := by
  refine ⟨fun _ => freshNat_le_iff, ?_, ?_⟩
  · rw [← hasRoom_iff]
    constructor
    · rintro ⟨⟨next, diff⟩, hresult⟩
      exact (withHosts_eq_ok hresult).1
    · exact fun hroom => ⟨_, withHosts_of_hasRoom hroom⟩
  · intro next diff hresult
    obtain ⟨hroom, rfl, rfl⟩ := withHosts_eq_ok hresult
    exact exchange_exchanged hroom

/-- A configuration just below the limits, in which two members have the same id and host and two
others the same host. -/
def crowdedConfig : ReplicaConfig where
  id := "rs0"
  version := 18446744073709551614
  members := [⟨4294967292, "a"⟩, ⟨7, "b"⟩, ⟨7, "b"⟩, ⟨1, "a"⟩]

/-- The last two ids are handed out that leave one behind them. -/
theorem exchange_of_members_at_limits :
    let next : ReplicaConfig :=
      { id := "rs0", version := 18446744073709551615
        members := [⟨4294967292, "a"⟩, ⟨1, "a"⟩, ⟨4294967293, "d"⟩, ⟨4294967294, "c"⟩] }
    let desired := ["d", "a", "c", "d", "a"]
    crowdedConfig.withHosts desired = .ok (next, ⟨["b", "b"], ["d", "c"]⟩) ∧
      crowdedConfig.Exchange desired next ⟨["b", "b"], ["d", "c"]⟩ := by
  intro next desired
  have hresult : crowdedConfig.withHosts desired = .ok (next, ⟨["b", "b"], ["d", "c"]⟩) :=
    withHosts_of_hasRoom (by decide +kernel)
  exact ⟨hresult, (exchange_of_members _ _).2.2 _ _ hresult⟩

end ReplicaConfig

end ClusterConvergence
