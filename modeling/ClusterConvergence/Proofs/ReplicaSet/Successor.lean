import ClusterConvergence.Proofs.ReplicaSet.Members

/-!
# Successors

What becomes of a live configuration when its members are renamed (`renamed_eq_ok_iff`) and when
members leave and join (`withHosts_eq_ok`).  Renaming keeps the ids and their order.  An exchange
keeps the members whose hosts are desired and numbers those that join from the first id above every
id in use; its hosts are the desired ones (`mem_hosts_exchanged`), and it has no defect if the live
configuration has none.
-/

namespace ClusterConvergence

/-! ## Renaming -/

namespace Member

/-- A member under its new host; it keeps its host if there is no new one. -/
def under (newHost : Dict String) (m : Member) : Member :=
  ⟨m.id, (newHost.get? m.host).getD m.host⟩

/-- Renaming succeeds when every host has a new name. -/
theorem rename_eq_ok_iff {newHost : Dict String} {members renamed : List Member} :
    rename newHost members = .ok renamed ↔
      (∀ m ∈ members, newHost.contains m.host = true) ∧ renamed = members.map (under newHost) := by
  induction members generalizing renamed with
  | nil =>
    rw [rename, Except.ok.injEq, eq_comm]
    simp
  | cons m members ih =>
    rw [rename, List.forall_mem_cons, List.map_cons, Dict.contains, under]
    rcases hget : newHost.get? m.host with - | host
    · exact iff_of_false nofun fun h => nomatch h.1.1
    · show (rename newHost members >>= fun rest => Except.ok (⟨m.id, host⟩ :: rest)) = _ ↔ _
      constructor
      · intro h
        rcases hrest : rename newHost members with e | rest
        · rw [hrest] at h
          cases h
        · rw [hrest] at h
          cases h
          obtain ⟨hmapped, rfl⟩ := ih.1 hrest
          exact ⟨⟨rfl, hmapped⟩, rfl⟩
      · rintro ⟨⟨-, hmapped⟩, rfl⟩
        rw [ih.2 ⟨hmapped, rfl⟩]
        rfl

/-- Renaming fails only at a member whose host has no new name, and that host is told. -/
theorem exists_of_rename_eq_error {newHost : Dict String} {members : List Member} {e : RenameError}
    (h : rename newHost members = .error e) :
    ∃ m ∈ members, newHost.get? m.host = none ∧ e = .unmapped m.host := by
  induction members with
  | nil => cases h
  | cons m members ih =>
    rw [rename] at h
    rcases hget : newHost.get? m.host with - | host
    · rw [hget] at h
      cases h
      exact ⟨m, List.mem_cons_self, hget, rfl⟩
    · rw [hget] at h
      rcases hrest : rename newHost members with e' | rest
      · rw [hrest] at h
        cases h
        obtain ⟨m', hm', hnone⟩ := ih hrest
        exact ⟨m', List.mem_cons_of_mem _ hm', hnone⟩
      · rw [hrest] at h
        cases h

end Member

theorem nodup_eraseDups (l : List String) : l.eraseDups.Nodup := by
  cases l with
  | nil => exact List.nodup_nil
  | cons a l =>
    rw [List.eraseDups_cons, List.nodup_cons]
    refine ⟨fun hmem => ?_, nodup_eraseDups _⟩
    simpa using (List.mem_filter.1 (List.mem_eraseDups.1 hmem)).2
termination_by l.length
decreasing_by exact Nat.lt_succ_of_le (List.length_filter_le _ _)

namespace ReplicaConfig

variable {live next : ReplicaConfig} {desired : List String}

/-- Renaming gives the members their new hosts under the next version. -/
theorem renamed_eq_ok_iff {newHost : Dict String} :
    live.renamed newHost = .ok next ↔
      next.id = live.id ∧ next.version.toNat = live.version.toNat + 1 ∧
        (∀ host ∈ live.hosts, newHost.contains host = true) ∧
        next.members = live.members.map (Member.under newHost) := by
  have hmapped : (∀ host ∈ live.hosts, newHost.contains host = true) ↔
      ∀ m ∈ live.members, newHost.contains m.host = true := List.forall_mem_map
  rw [renamed, hmapped]
  rcases hrename : Member.rename newHost live.members with e | members
  · refine iff_of_false nofun ?_
    rintro ⟨-, -, hmapped, hmembers⟩
    rw [Member.rename_eq_ok_iff.2 ⟨hmapped, hmembers⟩] at hrename
    cases hrename
  · obtain ⟨hall, rfl⟩ := Member.rename_eq_ok_iff.1 hrename
    rcases hversion : nextVersion live.version with ⟨⟩ | version
    · refine iff_of_false nofun ?_
      rintro ⟨-, hsucc, -⟩
      rw [nextVersion_eq_ok_iff.2 hsucc] at hversion
      cases hversion
    · have hsucc := nextVersion_eq_ok_iff.1 hversion
      show Except.ok (⟨live.id, version, _⟩ : ReplicaConfig) = _ ↔ _
      constructor
      · rintro ⟨⟩
        exact ⟨rfl, hsucc, hall, rfl⟩
      · rintro ⟨hid, hnext, -, hmembers⟩
        have hversions := UInt64.toNat_inj.1 (hsucc.trans hnext.symm)
        obtain ⟨id, version', members⟩ := next
        cases hid
        cases hmembers
        cases hversions
        rfl

/-- The host that is told to have no new name is a live one, and it has none. -/
theorem of_renamed_eq_unmapped {newHost : Dict String} {host : String}
    (h : live.renamed newHost = .error (.unmapped host)) :
    host ∈ live.hosts ∧ newHost.get? host = none := by
  rw [renamed] at h
  rcases hrename : Member.rename newHost live.members with e | members <;> rw [hrename] at h
  · cases h
    obtain ⟨m, hm, hnone, heq⟩ := Member.exists_of_rename_eq_error hrename
    cases heq
    exact ⟨List.mem_map_of_mem hm, hnone⟩
  · rcases hversion : nextVersion live.version with ⟨⟩ | version
    · rw [hversion] at h
      cases h
    · rw [hversion] at h
      cases h

theorem ids_of_renamed {newHost : Dict String} (h : live.renamed newHost = .ok next) :
    next.ids = live.ids := by
  rw [ids, (renamed_eq_ok_iff.1 h).2.2.2, List.map_map]
  rfl

theorem hosts_of_renamed {newHost : Dict String} (h : live.renamed newHost = .ok next) :
    next.hosts = live.hosts.map fun host => (newHost.get? host).getD host := by
  rw [hosts, (renamed_eq_ok_iff.1 h).2.2.2, hosts, List.map_map, List.map_map]
  rfl

/-! ## Exchanging -/

instance : Std.LawfulOrderMax UInt32 where
  max_eq_or a b := by
    show (if a ≤ b then b else a) = a ∨ (if a ≤ b then b else a) = b
    split
    · exact Or.inr rfl
    · exact Or.inl rfl
  max_le_iff a b c := by
    show (if a ≤ b then b else a) ≤ c ↔ _
    split <;> simp only [UInt32.le_iff_toNat_le] at * <;> omega

/-- The first number above every id in use; it may be too large for an id. -/
def freshNat (live : ReplicaConfig) : Nat :=
  match live.maxId? with
  | none => 0
  | some id => id.toNat + 1

theorem lt_freshNat {id : UInt32} (h : id ∈ live.ids) : id.toNat < live.freshNat := by
  rw [freshNat, maxId?]
  rcases hmax : live.ids.max? with - | top
  · rw [List.max?_eq_none_iff.1 hmax] at h
    cases h
  · have hle := (List.max?_eq_some_iff.1 hmax).2 id h
    exact Nat.lt_succ_of_le (UInt32.le_iff_toNat_le.1 hle)

theorem freshNat_le {n : Nat} (h : ∀ id ∈ live.ids, id.toNat < n) : live.freshNat ≤ n := by
  rw [freshNat, maxId?]
  rcases hmax : live.ids.max? with - | top
  · exact Nat.zero_le n
  · exact h top (List.max?_eq_some_iff.1 hmax).1

theorem freshNat_le_iff {n : Nat} :
    live.freshNat ≤ n ↔ ∀ m ∈ live.members, m.id.toNat < n := by
  constructor
  · intro hle m hm
    exact Nat.lt_of_lt_of_le (lt_freshNat (List.mem_map_of_mem hm)) hle
  · exact fun h => freshNat_le (List.forall_mem_map.2 h)

theorem freshId_eq_ok_iff {id : UInt32} : live.freshId = .ok id ↔ id.toNat = live.freshNat := by
  rw [freshId, freshNat]
  rcases live.maxId? with - | top
  · rw [Except.ok.injEq, ← UInt32.toNat_inj, eq_comm]
    rfl
  · exact nextId_eq_ok_iff

/-- The members that join when the hosts are to be `desired`. -/
def joined (live : ReplicaConfig) (desired : List String) : List Member :=
  Member.numbered live.freshNat (live.diff desired).added

/-- The successor whose hosts are the desired ones. -/
def exchanged (live : ReplicaConfig) (desired : List String) : ReplicaConfig where
  id := live.id
  version := live.version + 1
  members := live.kept desired ++ live.joined desired

/-- Whether the numbers fit their width that an exchange counts up. -/
def HasRoom (live : ReplicaConfig) (desired : List String) : Prop :=
  live.freshNat + (live.diff desired).added.length < UInt32.size ∧
    live.version.toNat + 1 < UInt64.size

/-- An exchange fails only when a number does not fit its width. -/
theorem withHosts_of_hasRoom (h : live.HasRoom desired) :
    live.withHosts desired = .ok (live.exchanged desired, live.diff desired) := by
  obtain ⟨hids, hversion⟩ := h
  have hfresh : live.freshId = .ok (UInt32.ofNat live.freshNat) :=
    freshId_eq_ok_iff.2 (UInt32.toNat_ofNat_of_lt' (show live.freshNat < UInt32.size by omega))
  have hjoined : Member.number (UInt32.ofNat live.freshNat) (live.diff desired).added =
      .ok (live.joined desired) := by
    rw [Member.number_eq, freshId_eq_ok_iff.1 hfresh, if_pos hids]
    rfl
  rw [withHosts, hfresh, nextVersion, if_pos hversion]
  show (Member.number (UInt32.ofNat live.freshNat) (live.diff desired).added >>= fun joined =>
    Except.ok ((⟨live.id, live.version + 1, live.kept desired ++ joined⟩ : ReplicaConfig),
      live.diff desired)) = _
  rw [hjoined]
  rfl

theorem withHosts_of_not_hasRoom (h : ¬ live.HasRoom desired) :
    live.withHosts desired = .error ⟨⟩ := by
  rw [withHosts]
  rcases hfresh : live.freshId with ⟨⟩ | fresh
  · rfl
  · have hids := freshId_eq_ok_iff.1 hfresh
    show (Member.number fresh (live.diff desired).added >>= fun joined =>
      nextVersion live.version >>= fun version =>
        Except.ok ((⟨live.id, version, live.kept desired ++ joined⟩ : ReplicaConfig),
          live.diff desired)) = _
    rw [Member.number_eq, hids]
    by_cases hfit : live.freshNat + (live.diff desired).added.length < UInt32.size
    · have hversion : ¬ live.version.toNat + 1 < UInt64.size := fun hlt => h ⟨hfit, hlt⟩
      rw [if_pos hfit, nextVersion, if_neg hversion]
      rfl
    · rw [if_neg hfit]
      rfl

instance : Decidable (live.HasRoom desired) :=
  inferInstanceAs (Decidable (_ ∧ _))

theorem withHosts_eq_ok {diff : MemberDiff} (h : live.withHosts desired = .ok (next, diff)) :
    live.HasRoom desired ∧ next = live.exchanged desired ∧ diff = live.diff desired := by
  by_cases hroom : live.HasRoom desired
  · rw [withHosts_of_hasRoom hroom] at h
    cases h
    exact ⟨hroom, rfl, rfl⟩
  · rw [withHosts_of_not_hasRoom hroom] at h
    cases h

/-! ## What an exchange leads to -/

theorem version_exchanged (hroom : live.HasRoom desired) :
    (live.exchanged desired).version.toNat = live.version.toNat + 1 := by
  have hnext : nextVersion live.version = .ok (live.version + 1) := if_pos hroom.2
  exact nextVersion_eq_ok_iff.1 hnext

theorem mem_added {host : String} :
    host ∈ (live.diff desired).added ↔ host ∈ desired ∧ host ∉ live.hosts := by
  simp [diff, List.mem_eraseDups]

theorem mem_removed {host : String} :
    host ∈ (live.diff desired).removed ↔ host ∈ live.hosts ∧ host ∉ desired := by
  simp [diff]

/-- Nothing is exchanged exactly when the hosts are the desired ones already. -/
theorem diff_isEmpty_iff :
    (live.diff desired).isEmpty = true ↔ ∀ host, host ∈ live.hosts ↔ host ∈ desired := by
  rw [MemberDiff.isEmpty, Bool.and_eq_true, List.isEmpty_iff, List.isEmpty_iff,
    List.eq_nil_iff_forall_not_mem, List.eq_nil_iff_forall_not_mem]
  constructor
  · rintro ⟨hremoved, hadded⟩ host
    refine ⟨fun hlive => ?_, fun hdesired => ?_⟩
    · refine Decidable.byContradiction fun hnot => ?_
      exact hremoved host (mem_removed.2 ⟨hlive, hnot⟩)
    · refine Decidable.byContradiction fun hnot => ?_
      exact hadded host (mem_added.2 ⟨hdesired, hnot⟩)
  · intro h
    refine ⟨fun host hmem => ?_, fun host hmem => ?_⟩
    · exact (mem_removed.1 hmem).2 ((h host).1 (mem_removed.1 hmem).1)
    · exact (mem_added.1 hmem).2 ((h host).2 (mem_added.1 hmem).1)

theorem hosts_exchanged :
    (live.exchanged desired).hosts =
      live.hosts.filter (desired.contains ·) ++ (live.diff desired).added := by
  rw [hosts, exchanged, List.map_append, joined, Member.map_host_numbered, kept, hosts,
    List.filter_map]
  rfl

/-- The hosts of the successor are the desired ones. -/
theorem mem_hosts_exchanged {host : String} :
    host ∈ (live.exchanged desired).hosts ↔ host ∈ desired := by
  rw [hosts_exchanged, List.mem_append, List.mem_filter, mem_added, List.contains_iff_mem]
  constructor
  · rintro (⟨-, h⟩ | ⟨h, -⟩) <;> exact h
  · intro h
    by_cases hlive : host ∈ live.hosts
    · exact Or.inl ⟨hlive, h⟩
    · exact Or.inr ⟨h, hlive⟩

theorem nodup_added : (live.diff desired).added.Nodup := by
  show (desired.filter fun h => !live.hosts.contains h).eraseDups.Nodup
  exact nodup_eraseDups _

theorem nodup_hosts_exchanged (h : live.hosts.Nodup) : (live.exchanged desired).hosts.Nodup := by
  rw [hosts_exchanged, List.nodup_append]
  refine ⟨h.filter _, nodup_added, ?_⟩
  rintro host hkept _ hadded rfl
  exact (mem_added.1 hadded).2 (List.mem_filter.1 hkept).1

/-- A member that joins has an id above every id in use. -/
theorem id_of_mem_joined (hroom : live.HasRoom desired) {m : Member}
    (hm : m ∈ live.joined desired) :
    live.freshNat ≤ m.id.toNat ∧
      m.id.toNat < live.freshNat + (live.diff desired).added.length :=
  Member.id_of_mem_numbered (Nat.le_of_lt hroom.1) hm

/-- An exchange takes as many ids as members join. -/
theorem freshNat_exchanged_le (hroom : live.HasRoom desired) :
    (live.exchanged desired).freshNat ≤ live.freshNat + (live.diff desired).added.length := by
  refine freshNat_le fun id hid => ?_
  rw [ids, exchanged, List.map_append, List.mem_append] at hid
  rcases hid with hkept | hjoined
  · obtain ⟨m, hm, rfl⟩ := List.mem_map.1 hkept
    have hlt := lt_freshNat (List.mem_map_of_mem (List.mem_filter.1 hm).1)
    omega
  · obtain ⟨m, hm, rfl⟩ := List.mem_map.1 hjoined
    exact (id_of_mem_joined hroom hm).2

theorem nodup_ids_exchanged (hroom : live.HasRoom desired) (h : live.ids.Nodup) :
    (live.exchanged desired).ids.Nodup := by
  rw [ids, exchanged, List.map_append, List.nodup_append]
  -- the ids of the members that stay are in use, and those that are handed out lie above them
  refine ⟨?_, Member.nodup_ids_numbered (Nat.le_of_lt hroom.1), ?_⟩
  · exact h.sublist (List.filter_sublist.map _)
  · rintro id hkept _ hjoined rfl
    obtain ⟨m, hm, rfl⟩ := List.mem_map.1 hkept
    obtain ⟨m', hm', hid⟩ := List.mem_map.1 hjoined
    have hlt := lt_freshNat (List.mem_map_of_mem (List.mem_filter.1 hm).1)
    have hle := (id_of_mem_joined hroom hm').1
    rw [hid] at hle
    exact absurd hlt (Nat.not_lt.2 hle)

/-- The successor of a configuration without defect has none, as long as some host is desired. -/
theorem defect?_exchanged (hroom : live.HasRoom desired) (hdesired : desired ≠ [])
    (hids : live.ids.Nodup) (hhosts : live.hosts.Nodup) :
    (live.exchanged desired).defect? = none := by
  refine defect?_eq_none_iff.2
    ⟨?_, nodup_ids_exchanged hroom hids, nodup_hosts_exchanged hhosts⟩
  intro hnil
  obtain ⟨host, hhost⟩ := List.exists_mem_of_ne_nil _ hdesired
  have hmem : host ∈ (live.exchanged desired).hosts := mem_hosts_exchanged.2 hhost
  rw [hosts, hnil] at hmem
  cases hmem

end ReplicaConfig

end ClusterConvergence
