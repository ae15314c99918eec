import ClusterConvergence.Proofs.Activity
import ClusterConvergence.Sharding.Collection

/-!
# Collections that were checked

Checking collections changes nothing about them: it lets them pass as they are given, in the order of
their namespaces, and there is no blank in the names of their databases.  The databases are listed in
ascending order, each once.
-/

namespace ClusterConvergence

namespace ShardedCollection

theorem parse_eq_ok_iff {ns key : String} {c : ShardedCollection} :
    parse ns key = .ok c ↔ c = ⟨ns, key⟩ ∧ isNamespace ns = true ∧ isBlankText key = false := by
  rw [parse]
  cases isNamespace ns <;> cases isBlankText key <;> simp [eq_comm]

theorem of_mapM_parse {entries : List (String × String)} {cs : List ShardedCollection}
    (h : (entries.mapM fun e => parse e.1 e.2) = .ok cs) :
    cs = (entries.map fun e => ⟨e.1, e.2⟩) ∧ ∀ c ∈ cs, isNamespace c.ns = true := by
  induction entries generalizing cs with
  | nil =>
    cases h
    exact ⟨rfl, List.forall_mem_nil _⟩
  | cons e entries ih =>
    rw [List.mapM_cons] at h
    obtain ⟨c, hfirst, h⟩ := exists_of_bind_eq_ok h
    obtain ⟨rest, hrest, h⟩ := exists_of_bind_eq_ok h
    cases h
    obtain ⟨rfl, hns, -⟩ := parse_eq_ok_iff.1 hfirst
    obtain ⟨hrest, hall⟩ := ih hrest
    exact ⟨by rw [List.map_cons, hrest], List.forall_mem_cons.2 ⟨hns, hall⟩⟩

/-- What passes the check are the given namespaces with their keys. -/
theorem eq_of_parseAll {collections : Dict String} {cs : List ShardedCollection}
    (h : parseAll collections = .ok cs) : cs = collections.entries.map fun e => ⟨e.1, e.2⟩ :=
  (of_mapM_parse h).1

/-- A collection passes if it is listed under its namespace. -/
theorem mem_of_parseAll {collections : Dict String} {cs : List ShardedCollection}
    (h : parseAll collections = .ok cs) {c : ShardedCollection} :
    c ∈ cs ↔ collections.get? c.ns = some c.key := by
  rw [eq_of_parseAll h, ← Dict.mem_entries_iff, List.mem_map]
  exact ⟨fun ⟨e, hmem, heq⟩ => heq ▸ hmem, fun hmem => ⟨_, hmem, rfl⟩⟩

/-- A blank may not stand in the name of a database. -/
theorem blank_not_mem_database {collections : Dict String} {cs : List ShardedCollection}
    (h : parseAll collections = .ok cs) : ∀ c ∈ cs, ' ' ∉ c.database.toList := by
  intro c hc
  have hns := (of_mapM_parse h).2 c hc
  rw [isNamespace] at hns
  rw [database, splitNamespace]
  split at hns
  · rw [Bool.and_eq_true, isDatabaseName, Bool.and_eq_true, List.all_eq_true] at hns
    intro hblank
    rw [String.toList_ofList] at hblank
    cases hns.1.2 ' ' hblank
  · cases hns

theorem pairwise_databases (cs : List ShardedCollection) : (databases cs).Pairwise (· < ·) :=
  (NameSet.ofNames (cs.map database)).pairwise_keys

theorem mem_databases {db : String} {cs : List ShardedCollection} :
    db ∈ databases cs ↔ db ∈ cs.map database := by
  rw [databases, NameSet.ofNames, Dict.mem_keys_ofList, List.map_map]
  simp

end ShardedCollection

end ClusterConvergence
