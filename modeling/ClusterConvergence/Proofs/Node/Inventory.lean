import Mathlib.Data.List.Forall2
import ClusterConvergence.Node.Inventory
import ClusterConvergence.Proofs.Json.Decode
import ClusterConvergence.Proofs.Text.Dict

/-!
# Inventories are read back

A node is an entry of an inventory if the entry is an object with all the fields of the node.  The
order of the fields does not matter: an entry is taken out of the text as a value first, and that
puts its members into ascending order.  So every entry comes down to one and the same document
(`Node.Entry.sorted_eq`), from which the node is decoded field by field.

Main statement: `inventory_round_trip`.
-/

namespace ClusterConvergence

open Decoder Json

namespace Json

/-! ## Values in ascending order -/

theorem sortedMembers_eq (d : Dict Json) (members : List (String × Json)) :
    sortedMembers d members =
      (members.map fun e => (e.1, e.2.sorted)).foldl (fun d e => d.insert e.1 e.2) d := by
  induction members generalizing d with
  | nil => rfl
  | cons e members ih => exact ih _

theorem sorted_object {members : List (String × Json)} (h : ∀ e ∈ members, e.2.sorted = e.2) :
    (object members).sorted = .object (Dict.ofList members).entries := by
  have hmap : members.map (fun e => (e.1, e.2.sorted)) = members := by
    refine (List.map_congr_left fun e he => ?_).trans (List.map_id members)
    exact Prod.ext rfl (h e he)
  rw [sorted, sortedMembers_eq, hmap]
  rfl

/-- A value that an entry holds as it stands: nothing in it is reordered, its text is read back, and
it is nested no deeper than a list of strings. -/
structure Plain (j : Json) : Prop where
  sorted_eq : j.sorted = j
  legible : j.Legible
  height_le : j.height ≤ 1

theorem plain_string (s : String) : (string s).Plain :=
  ⟨by rw [sorted], trivial, Nat.zero_le 1⟩

theorem plain_bool (b : Bool) : (bool b).Plain :=
  ⟨by rw [sorted], trivial, Nat.zero_le 1⟩

theorem plain_uint16 (n : UInt16) : (nat n.toNat).Plain := by
  have hsize : n.toNat < 2 ^ 16 := n.toNat_lt_size
  exact ⟨by rw [nat, sorted], ⟨by omega, by omega⟩, Nat.zero_le 1⟩

theorem plain_stringOrNull (o : Option String) : (stringOrNull o).Plain := by
  cases o with
  | none => exact ⟨by rw [stringOrNull, sorted], trivial, Nat.zero_le 1⟩
  | some s => exact plain_string s

theorem plain_strings (l : List String) : (strings l).Plain := by
  have hsorted : sortedItems (l.map string) = l.map string := by
    induction l with
    | nil => rw [List.map_nil, sortedItems]
    | cons s l ih => rw [List.map_cons, sortedItems, ih, sorted]
  refine ⟨?_, ?_, ?_⟩
  · rw [strings, sorted, hsorted]
  · exact legibleItems_iff.2 (List.forall_mem_map.2 fun _ _ => trivial)
  · exact Nat.succ_le_succ (heightItems_le_iff.2 (List.forall_mem_map.2 fun _ _ => Nat.le_refl 0))

end Json

/-! ## The fields of a node -/

namespace Decoder

theorem reads_uint16 (n : UInt16) : Reads uint16 n (.nat n.toNat) := by
  intro source
  have hrange : (0 : Int) ≤ n.toNat ∧ (n.toNat : Int) < UInt16.size :=
    ⟨Int.natCast_nonneg _, Int.ofNat_lt.2 n.toNat_lt_size⟩
  rw [uint16, Json.nat, reads_integer hrange source]
  exact congrArg Except.ok (UInt16.ofNat_toNat)

theorem reads_stringOrNull (o : Option String) : Reads (optional string) o (stringOrNull o) := by
  cases o with
  | none => exact fun _ => rfl
  | some s => exact (reads_string s).optional nofun

theorem reads_role (r : Role) : Reads role r (.string r.name) := by
  cases r <;> exact fun _ => rfl

theorem reads_roles (roles : List Role) :
    Reads (list role) roles (.strings (roles.map Role.name)) := by
  rw [strings, List.map_map]
  exact Reads.list fun r _ => reads_role r

end Decoder

namespace Node

/-- An entry for a node: an object with the members of the node's document, in any order. -/
inductive Entry (node : Node) : Json → Prop
  | reordered {fields members : List (String × Json)} (hfields : node.toJson = .object fields)
      (hperm : members.Perm fields) : Entry node (.object members)

theorem entry_toJson (node : Node) : node.Entry node.toJson :=
  .reordered rfl (List.Perm.refl _)

/-- The members of an entry in ascending order. -/
def ascendingMembers (node : Node) : List (String × Json) := [
  ("cluster_name", .stringOrNull node.clusterName),
  ("environment", .string node.environment),
  ("fqdn", .string node.fqdn),
  ("ip_address", .string node.ipAddress),
  ("is_replica_set_member", .bool node.inReplicaSet),
  ("name", .string node.name),
  ("port", .nat node.port.toNat),
  ("replica_set_name", .stringOrNull node.replicaSetName),
  ("roles", .strings (node.roles.map Role.name)),
  ("shard_name", .stringOrNull node.shardName)]

theorem pairwise_ascendingMembers (node : Node) :
    node.ascendingMembers.Pairwise fun a b => a.1 < b.1 := by
  have hnames : (["cluster_name", "environment", "fqdn", "ip_address", "is_replica_set_member",
      "name", "port", "replica_set_name", "roles", "shard_name"] : List String).Pairwise
        (· < ·) := by
    decide +kernel
  exact List.pairwise_map.1 hnames

theorem nodup_ascendingMembers (node : Node) : (node.ascendingMembers.map (·.1)).Nodup := by
  have hnames := List.pairwise_map.2 node.pairwise_ascendingMembers
  exact hnames.imp fun hlt => String.ne_of_lt hlt

theorem perm_ascendingMembers {node : Node} {fields : List (String × Json)}
    (h : node.toJson = .object fields) : fields.Perm node.ascendingMembers := by
  -- the places at which the fields of the document come to stand
  have hplaces : [5, 2, 3, 6, 4, 7, 1, 0, 9, 8].Perm (List.range 10) := by decide
  cases h
  exact hplaces.map fun place => node.ascendingMembers.getD place ("", .null)

theorem plain_ascendingMembers (node : Node) : ∀ e ∈ node.ascendingMembers, e.2.Plain := by
  simp only [ascendingMembers, List.forall_mem_cons]
  exact ⟨plain_stringOrNull _, plain_string _, plain_string _, plain_string _, plain_bool _,
    plain_string _, plain_uint16 _, plain_stringOrNull _, plain_strings _, plain_stringOrNull _,
    List.forall_mem_nil _⟩

/-- A node is decoded from its members in ascending order. -/
theorem reads_ascendingMembers (node : Node) :
    Reads decode node (.object node.ascendingMembers) := by
  intro source
  show shape.fromMembers source [] _ (memberDocs node.ascendingMembers) = _
  simp only [ascendingMembers, memberDocs]
  rw [Shape.fromMembers_field rfl (by decide) (reads_stringOrNull node.clusterName),
    Shape.fromMembers_field rfl (by decide) (reads_string node.environment),
    Shape.fromMembers_field rfl (by decide) (reads_string node.fqdn),
    Shape.fromMembers_field rfl (by decide) (reads_string node.ipAddress),
    Shape.fromMembers_field rfl (by decide) (reads_bool node.inReplicaSet),
    Shape.fromMembers_field rfl (by decide) (reads_string node.name),
    Shape.fromMembers_field rfl (by decide) (reads_uint16 node.port),
    Shape.fromMembers_field rfl (by decide) (reads_stringOrNull node.replicaSetName),
    Shape.fromMembers_field rfl (by decide) (reads_roles node.roles),
    Shape.fromMembers_field rfl (by decide) (reads_stringOrNull node.shardName)]
  rfl

/-! ## Entries -/

namespace Entry

variable {node : Node} {entry : Json}

theorem exists_perm (h : node.Entry entry) :
    ∃ members, entry = .object members ∧ members.Perm node.ascendingMembers := by
  cases h with
  | reordered hfields hperm => exact ⟨_, rfl, hperm.trans (perm_ascendingMembers hfields)⟩

/-- With its members in ascending order, every entry for a node is the same document. -/
theorem sorted_eq (h : node.Entry entry) : entry.sorted = .object node.ascendingMembers := by
  obtain ⟨members, rfl, hperm⟩ := h.exists_perm
  have hplain : ∀ e ∈ members, e.2.sorted = e.2 :=
    fun e he => (node.plain_ascendingMembers e (hperm.subset he)).sorted_eq
  rw [sorted_object hplain, ← Dict.ofList_of_perm hperm.symm node.nodup_ascendingMembers,
    Dict.entries_ofList_of_ascending node.pairwise_ascendingMembers]

theorem legible (h : node.Entry entry) : entry.Legible := by
  obtain ⟨members, rfl, hperm⟩ := h.exists_perm
  exact legibleMembers_iff.2 fun e he =>
    (node.plain_ascendingMembers e (hperm.subset he)).legible

theorem height_le (h : node.Entry entry) : entry.height ≤ 2 := by
  obtain ⟨members, rfl, hperm⟩ := h.exists_perm
  exact Nat.succ_le_succ (heightMembers_le_iff.2 fun e he =>
    (node.plain_ascendingMembers e (hperm.subset he)).height_le)

/-- An entry is taken out of the text as a value. -/
theorem reads (h : node.Entry entry) (source : Source) :
    Decoder.entry source entry.toDoc = .ok (.object node.ascendingMembers) := by
  rw [Decoder.entry, value?_toDoc entry (Nat.le_trans h.height_le (by decide))]
  exact congrArg Except.ok h.sorted_eq

end Entry

theorem roleTexts_ascendingMembers (node : Node) :
    roleTexts (.object node.ascendingMembers) = node.roles.map Role.name := by
  show ((node.roles.map Role.name).map Json.string).filterMap _ = _
  rw [List.filterMap_map]
  exact List.filterMap_some

theorem checkRoles_ascendingMembers (node : Node) :
    checkRoles (.object node.ascendingMembers) = .ok () := by
  rw [checkRoles, roleTexts_ascendingMembers]
  induction node.roles with
  | nil => rfl
  | cons role roles ih =>
    rw [List.map_cons, List.forM, Role.parse_name]
    exact ih

/-- The roles of a node are known, so they pass the check and the node is decoded. -/
theorem nodeOfEntry_ascendingMembers (node : Node) :
    nodeOfEntry (.object node.ascendingMembers) = .ok node := by
  rw [nodeOfEntry, checkRoles_ascendingMembers, ofJson, node.reads_ascendingMembers .value]
  rfl

end Node

/-! ## Inventories -/

/-- An inventory with these entries. -/
def inventoryOf (entries : List Json) : Json :=
  .object [("nodes", .array entries)]

variable {nodes : List Node} {entries : List Json}

theorem legible_inventoryOf (h : List.Forall₂ Node.Entry nodes entries) :
    (inventoryOf entries).Legible := by
  have hentries : LegibleItems entries := by
    induction h with
    | nil => trivial
    | cons hentry _ ih => exact ⟨hentry.legible, ih⟩
  exact ⟨hentries, trivial⟩

/-- The entries are taken out of the text in their order. -/
theorem reads_inventoryOf (h : List.Forall₂ Node.Entry nodes entries) :
    Reads (inventoryShape.decode []) (nodes.map fun node => .object node.ascendingMembers)
      (inventoryOf entries) := by
  have hlist : Reads (list Decoder.entry) (nodes.map fun node => .object node.ascendingMembers)
      (.array entries) :=
    Reads.array (List.forall₂_map_left_iff.2 (h.imp fun _ _ hentry => hentry.reads))
  intro source
  show inventoryShape.fromMembers source [] [] [(some "nodes", _)] = _
  rw [Shape.fromMembers_field rfl (by decide) hlist]
  rfl

/-- Entries for nodes, each with its fields in any order, make up an inventory of these nodes. -/
theorem parseInventory_of_entries (h : List.Forall₂ Node.Entry nodes entries) :
    parseInventory (inventoryOf entries).render = .ok nodes := by
  have hnodes : (nodes.map fun node => Json.object node.ascendingMembers).mapM nodeOfEntry =
      .ok nodes := by
    clear h
    induction nodes with
    | nil => rfl
    | cons node nodes ih =>
      rw [List.map_cons, List.mapM_cons, node.nodeOfEntry_ascendingMembers, ih]
      rfl
  rw [parseInventory, (reads_inventoryOf h).run_render (legible_inventoryOf h)]
  exact hnodes

/-- An inventory written from nodes is read back as these nodes in their order, whatever their names
are made of, and whether or not the fields that may be missing are there.  The fields of an entry may
stand in any order. -/
theorem inventory_round_trip (nodes : List Node) :
    parseInventory (inventoryOf (nodes.map Node.toJson)).render = .ok nodes ∧
      ∀ entries, List.Forall₂ Node.Entry nodes entries →
        parseInventory (inventoryOf entries).render = .ok nodes := by
  refine ⟨parseInventory_of_entries ?_, fun _ => parseInventory_of_entries⟩
  rw [List.forall₂_map_right_iff, List.forall₂_same]
  exact fun node _ => node.entry_toJson

/-- A node whose names hold a quote, a line break, a backslash, a control character and a character
beyond the first plane, with the greatest port and one role twice. -/
def awkwardNode : Node where
  name := "a \"b\"\nc"
  fqdn := "é.cluster\\"
  ipAddress := "\x01"
  port := 65535
  inReplicaSet := true
  replicaSetName := some " "
  shardName := some "𝄞"
  roles := [.mongos, .shard, .mongos]

/-- The fields of the document of a node, the last one first. -/
def reversedEntry (node : Node) : Json :=
  match node.toJson with
  | .object fields => .object fields.reverse
  | j => j

theorem inventory_round_trip_of_reversed_entry :
    awkwardNode.Entry (reversedEntry awkwardNode) ∧
      parseInventory (inventoryOf [reversedEntry awkwardNode, awkwardNode.toJson]).render =
        .ok [awkwardNode, awkwardNode] := by
  have hentry : awkwardNode.Entry (reversedEntry awkwardNode) :=
    .reordered rfl (List.reverse_perm _)
  refine ⟨hentry, (inventory_round_trip [awkwardNode, awkwardNode]).2 _ ?_⟩
  exact .cons hentry (.cons awkwardNode.entry_toJson .nil)

end ClusterConvergence
