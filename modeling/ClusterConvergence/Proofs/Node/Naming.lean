import ClusterConvergence.Node.Daemon
import ClusterConvergence.Proofs.Node.Order
import ClusterConvergence.Sharding.Spec
import Mathlib.Data.List.DropRight

/-!
# The name of a replica set

A node and the daemon that runs on it each work out the replica set that they belong to: the routing
layer groups nodes by the one, the daemon converges the other.  Both take the name that was given,
unless it is blank, and else that of the shard.  But the daemon leaves the blanks around a given
name out, and the node keeps them, so the two agree on a node exactly if the name given to it,
unless it is blank, neither begins nor ends with a blank.

Main statement: `replica_set_names_agree_iff`.
-/

namespace ClusterConvergence

/-! ### Texts without blanks around them -/

/-- A text neither begins nor ends with a blank. -/
def Unpadded (s : String) : Prop :=
  (∀ c ∈ s.toList.head?, isBlank c = false) ∧ ∀ c ∈ s.toList.getLast?, isBlank c = false

instance (s : String) : Decidable (Unpadded s) :=
  inferInstanceAs (Decidable (_ ∧ _))

theorem dropWhile_isBlank_eq_self_iff {cs : List Char} :
    cs.dropWhile isBlank = cs ↔ ∀ c ∈ cs.head?, isBlank c = false := by
  rw [List.dropWhile_eq_self_iff]
  cases cs with
  | nil => simp
  | cons c rest => simp

theorem rdropWhile_isBlank_eq_self_iff {cs : List Char} :
    cs.rdropWhile isBlank = cs ↔ ∀ c ∈ cs.getLast?, isBlank c = false := by
  rw [List.rdropWhile, List.reverse_eq_iff, dropWhile_isBlank_eq_self_iff, List.head?_reverse]

theorem trimChars_eq_self_iff {cs : List Char} :
    trimChars cs = cs ↔ cs.dropWhile isBlank = cs ∧ cs.rdropWhile isBlank = cs := by
  have htrim : trimChars cs = (cs.dropWhile isBlank).rdropWhile isBlank := rfl
  constructor
  · intro h
    -- what is trimmed is no longer than what is left of it after its front was dropped
    have hprefix : cs <+: cs.dropWhile isBlank := by
      conv_lhs => rw [← h, htrim]
      exact List.rdropWhile_prefix isBlank _
    have hfront : cs.dropWhile isBlank = cs :=
      (List.dropWhile_suffix isBlank).eq_of_length_le hprefix.length_le
    exact ⟨hfront, by rw [htrim, hfront] at h; exact h⟩
  · rintro ⟨hfront, hback⟩
    rw [htrim, hfront, hback]

theorem trim_eq_self_iff {s : String} : trim s = s ↔ Unpadded s := by
  have hlist : trim s = s ↔ trimChars s.toList = s.toList := by
    rw [trim, ← String.toList_inj, String.toList_ofList]
  rw [hlist, trimChars_eq_self_iff, dropWhile_isBlank_eq_self_iff, rdropWhile_isBlank_eq_self_iff,
    Unpadded]

/-! ### Two ways to a name -/

/-- The name that was given, unless it is blank. -/
def explicitName (given : Option String) : Option String :=
  given.filter fun name => !isBlankText name

theorem explicitName_some {name : String} :
    explicitName (some name) = if isBlankText name then none else some name := by
  rw [explicitName, Option.filter_some]
  cases isBlankText name <;> rfl

theorem explicitName_eq_some_iff {given : Option String} {name : String} :
    explicitName given = some name ↔ given = some name ∧ isBlankText name = false := by
  rw [explicitName, Option.filter_eq_some_iff, Bool.not_eq_true']

theorem Node.replicaSet?_of_member {node : Node}
    (hmember : node.inReplicaSet = true ∨ .replicaset ∈ node.roles) :
    node.replicaSet? =
      some ((explicitName node.replicaSetName).getD (replicaSetOfShard node.shard)) := by
  have hin : (node.inReplicaSet || node.hasRole .replicaset) = true := by
    simpa [Node.hasRole] using hmember
  rw [replicaSet?, if_pos hin]
  cases node.replicaSetName with
  | none => rfl
  | some name =>
    simp only [explicitName_some]
    split <;> rfl

theorem Daemon.replicaSet?_of_replicated {daemon : Daemon}
    (hdaemon : daemon = .mongod ∨ daemon = .configserver) (given : Option String) (shard : String) :
    daemon.replicaSet? true given shard =
      some (((explicitName given).map trim).getD (replicaSetOfShard shard)) := by
  rcases hdaemon with rfl | rfl <;>
    cases given with
    | none => rfl
    | some name =>
      rw [explicitName_some]
      simp only [replicaSet?]
      split <;> rfl

/-! ### Where they agree -/

/-- A member of a replica set and the daemon that runs on it agree on the name of the replica set
exactly if the name given to the node, unless it is blank, has no blanks around it.  In any case the
daemon's name is the node's, trimmed if it is one that was given. -/
theorem replica_set_names_agree_iff (node : Node) (daemon : Daemon)
    (hmember : node.inReplicaSet = true ∨ .replicaset ∈ node.roles)
    (hdaemon : daemon = .mongod ∨ daemon = .configserver) :
    (daemon.replicaSet? true node.replicaSetName node.shard = node.replicaSet? ↔
      ∀ name, node.replicaSetName = some name → isBlankText name = false → Unpadded name) ∧
    ∃ own, node.replicaSet? = some own ∧
      daemon.replicaSet? true node.replicaSetName node.shard =
        some (if explicitName node.replicaSetName = some own then trim own else own) := by
  rw [Node.replicaSet?_of_member hmember, Daemon.replicaSet?_of_replicated hdaemon]
  cases hgiven : explicitName node.replicaSetName with
  | none =>
    refine ⟨⟨?_, fun _ => rfl⟩, replicaSetOfShard node.shard, rfl, rfl⟩
    intro _ name hname hfull
    rw [explicitName_eq_some_iff.2 ⟨hname, hfull⟩] at hgiven
    cases hgiven
  | some name =>
    obtain ⟨hname, hfull⟩ := explicitName_eq_some_iff.1 hgiven
    refine ⟨?_, name, rfl, by rw [if_pos rfl]; rfl⟩
    rw [hname]
    show some (trim name) = some name ↔ _
    rw [Option.some.injEq, trim_eq_self_iff]
    constructor
    · intro hunpadded other hother _
      exact Option.some.inj hother ▸ hunpadded
    · intro h
      exact h name rfl hfull

/-- A name of blanks counts as none, however the shard is written. -/
def blankNamed : Node :=
  { name := "a", fqdn := "a.cluster", ipAddress := "10.0.0.1", roles := [.replicaset],
    replicaSetName := some " \u00a0", shardName := some " s " }

theorem replica_set_names_agree_on_blank_name :
    (blankNamed.inReplicaSet = true ∨ .replicaset ∈ blankNamed.roles) ∧
    (∀ name, blankNamed.replicaSetName = some name → isBlankText name = false → Unpadded name) ∧
    blankNamed.replicaSet? = some "rs_ s " ∧
    Daemon.configserver.replicaSet? true blankNamed.replicaSetName blankNamed.shard =
      some "rs_ s " := by
  have hmember : blankNamed.inReplicaSet = true ∨ .replicaset ∈ blankNamed.roles := by decide
  have hname : ∀ name, blankNamed.replicaSetName = some name → isBlankText name = false →
      Unpadded name := by
    intro name hname hfull
    rw [← Option.some.inj hname] at hfull
    exact absurd hfull (by decide)
  have hown : blankNamed.replicaSet? = some "rs_ s " := by decide
  have hagree :=
    (replica_set_names_agree_iff blankNamed .configserver hmember (Or.inr rfl)).1.2 hname
  exact ⟨hmember, hname, hown, hagree.trans hown⟩

/-- A name that was given with a blank in front of it. -/
def padNamed : Node :=
  { name := "a", fqdn := "a.cluster", ipAddress := "10.0.0.1", inReplicaSet := true,
    replicaSetName := some " rs0" }

/-- The routing layer is given the node under one name, and the daemon converges another. -/
theorem padded_name_splits_replica_set :
    padNamed.inReplicaSet = true ∧
    padNamed.replicaSet? = some " rs0" ∧
    ShardSpec.ofNodes [padNamed] = [.replicaSet " rs0" ["a.cluster:27017"]] ∧
    Daemon.mongod.replicaSet? true padNamed.replicaSetName padNamed.shard = some "rs0" ∧
    Daemon.configserver.replicaSet? true padNamed.replicaSetName padNamed.shard = some "rs0" := by
  refine ⟨rfl, by decide, ?_, by decide, by decide⟩
  rw [ShardSpec.ofNodes, Node.sorted_cons, Node.sorted_nil]
  decide

end ClusterConvergence
