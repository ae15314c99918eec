import ClusterConvergence.Cluster.Answer
import ClusterConvergence.ReplicaSet.Change
import ClusterConvergence.ReplicaSet.Desired

/-!
# Lists of members

Members are compared as multisets (`sameMembers_iff_perm`), and members that are numbered one after
the other have distinct ids as long as the numbers fit their width.
-/

namespace ClusterConvergence

/-! ## Comparing -/

namespace Member

theorem le_iff {a b : Member} : le a b = true ↔ a.id < b.id ∨ a.id = b.id ∧ a.host ≤ b.host := by
  simp only [le, Bool.or_eq_true, Bool.and_eq_true, decide_eq_true_eq, beq_iff_eq]

theorem le_trans {a b c : Member} (hab : le a b = true) (hbc : le b c = true) :
    le a c = true := by
  rw [le_iff] at hab hbc ⊢
  rcases hab with hab | ⟨hab, hhab⟩
  · rcases hbc with hbc | ⟨hbc, -⟩
    · exact Or.inl (UInt32.lt_trans hab hbc)
    · exact Or.inl (hbc ▸ hab)
  · rcases hbc with hbc | ⟨hbc, hhbc⟩
    · exact Or.inl (hab ▸ hbc)
    · exact Or.inr ⟨hab.trans hbc, String.le_trans hhab hhbc⟩

theorem le_total (a b : Member) : (le a b || le b a) = true := by
  rw [Bool.or_eq_true, le_iff, le_iff]
  rcases Nat.lt_trichotomy a.id.toNat b.id.toNat with h | h | h
  · exact Or.inl (Or.inl (UInt32.lt_iff_toNat_lt.2 h))
  · have hid := UInt32.toNat_inj.1 h
    rcases String.le_total a.host b.host with hh | hh
    · exact Or.inl (Or.inr ⟨hid, hh⟩)
    · exact Or.inr (Or.inr ⟨hid.symm, hh⟩)
  · exact Or.inr (Or.inl (UInt32.lt_iff_toNat_lt.2 h))

theorem le_antisymm {a b : Member} (hab : le a b = true) (hba : le b a = true) : a = b := by
  rw [le_iff] at hab hba
  rcases hab with hab | ⟨hid, hhab⟩
  · rcases hba with hba | ⟨hid, -⟩
    · exact absurd (UInt32.lt_trans hab hba) (UInt32.lt_irrefl _)
    · exact absurd (hid ▸ hab) (UInt32.lt_irrefl _)
  · rcases hba with hba | ⟨-, hhba⟩
    · exact absurd (hid ▸ hba) (UInt32.lt_irrefl _)
    · obtain ⟨id, host⟩ := a
      obtain ⟨id', host'⟩ := b
      exact congr (congrArg Member.mk hid) (String.le_antisymm hhab hhba)

end Member

/-- Two lists hold the same members exactly when one is a rearrangement of the other. -/
theorem sameMembers_iff_perm {a b : List Member} : sameMembers a b = true ↔ a.Perm b := by
  rw [sameMembers, beq_iff_eq]
  constructor
  · intro h
    have ha := List.mergeSort_perm a Member.le
    rw [h] at ha
    exact ha.symm.trans (List.mergeSort_perm b Member.le)
  · intro h
    have hsorted : ∀ l : List Member, (l.mergeSort Member.le).Pairwise (Member.le · ·) :=
      fun l => @List.pairwise_mergeSort _ Member.le (fun _ _ _ => Member.le_trans) Member.le_total l
    -- in a total order that is antisymmetric, a list has only one sorted rearrangement
    refine List.Perm.eq_of_pairwise (fun x y _ _ => Member.le_antisymm) (hsorted a) (hsorted b) ?_
    exact (List.mergeSort_perm a _).trans (h.trans (List.mergeSort_perm b _).symm)

theorem sameMembers_eq_isPerm (a b : List Member) : sameMembers a b = a.isPerm b := by
  rw [Bool.eq_iff_iff, sameMembers_iff_perm, List.isPerm_iff]

/-! ## Numbering -/

namespace Member

/-- Hosts as members whose ids count up from `n`. -/
def numbered (n : Nat) (hosts : List String) : List Member :=
  (hosts.zipIdx n).map fun (host, place) => ⟨UInt32.ofNat place, host⟩

@[simp] theorem numbered_nil (n : Nat) : numbered n [] = [] := rfl

@[simp] theorem numbered_cons (n : Nat) (host : String) (hosts : List String) :
    numbered n (host :: hosts) = ⟨UInt32.ofNat n, host⟩ :: numbered (n + 1) hosts := rfl

@[simp] theorem map_host_numbered (n : Nat) (hosts : List String) :
    (numbered n hosts).map (·.host) = hosts := by
  induction hosts generalizing n with
  | nil => rfl
  | cons host hosts ih => simp [ih]

/-- Numbering gives an id from `n` on to each host, as long as there are ids. -/
theorem id_of_mem_numbered {n : Nat} {hosts : List String} (hfit : n + hosts.length ≤ UInt32.size)
    {m : Member} (hm : m ∈ numbered n hosts) :
    n ≤ m.id.toNat ∧ m.id.toNat < n + hosts.length := by
  induction hosts generalizing n with
  | nil => cases hm
  | cons host hosts ih =>
    rw [List.length_cons] at hfit ⊢
    rw [numbered_cons] at hm
    rcases List.mem_cons.1 hm with rfl | hm
    · rw [UInt32.toNat_ofNat_of_lt' (show n < UInt32.size by omega)]
      omega
    · have := ih (by omega) hm
      omega

theorem nodup_ids_numbered {n : Nat} {hosts : List String} (hfit : n + hosts.length ≤ UInt32.size) :
    ((numbered n hosts).map (·.id)).Nodup := by
  induction hosts generalizing n with
  | nil => exact List.nodup_nil
  | cons host hosts ih =>
    rw [List.length_cons] at hfit
    rw [numbered_cons, List.map_cons, List.nodup_cons]
    refine ⟨?_, ih (by omega)⟩
    intro hmem
    obtain ⟨m, hm, hid⟩ := List.mem_map.1 hmem
    have hlt := (id_of_mem_numbered (by omega) hm).1
    rw [hid, UInt32.toNat_ofNat_of_lt' (show n < UInt32.size by omega)] at hlt
    omega

/-- Numbering succeeds exactly when the id behind the last one exists. -/
theorem number_eq (id : UInt32) (hosts : List String) :
    number id hosts =
      if id.toNat + hosts.length < UInt32.size then .ok (numbered id.toNat hosts)
      else .error ⟨⟩ := by
  induction hosts generalizing id with
  | nil =>
    have := id.toNat_lt_size
    rw [number, List.length_nil, if_pos (by omega), numbered_nil]
  | cons host hosts ih =>
    rw [number, List.length_cons]
    rcases hnext : nextId id with ⟨⟩ | next
    · have hfull : ¬ id.toNat + 1 < UInt32.size := by
        intro hlt
        rw [nextId, if_pos hlt] at hnext
        cases hnext
      rw [if_neg (by omega)]
      rfl
    · have hsucc := nextId_eq_ok_iff.1 hnext
      show (number next hosts >>= fun rest => Except.ok (⟨id, host⟩ :: rest)) = _
      rw [ih, hsucc, numbered_cons, UInt32.ofNat_toNat]
      by_cases hfit : id.toNat + 1 + hosts.length < UInt32.size
      · rw [if_pos hfit, if_pos (by omega)]
        rfl
      · rw [if_neg hfit, if_neg (by omega)]
        rfl

end Member

/-- Where the ids differ, an id belongs to one member. -/
theorem Member.eq_of_id {members : List Member} (hids : (members.map (·.id)).Nodup) {a b : Member}
    (ha : a ∈ members) (hb : b ∈ members) (hid : a.id = b.id) : a = b := by
  induction members with
  | nil => cases ha
  | cons m members ih =>
    rw [List.map_cons, List.nodup_cons] at hids
    rcases List.mem_cons.1 ha with rfl | ha'
    · rcases List.mem_cons.1 hb with rfl | hb'
      · rfl
      · exact absurd (hid ▸ List.mem_map_of_mem hb') hids.1
    · rcases List.mem_cons.1 hb with rfl | hb'
      · exact absurd (hid ▸ List.mem_map_of_mem ha') hids.1
      · exact ih hids.2 ha' hb'

/-! ## Defects -/

namespace ReplicaConfig

/-- A configuration without defect has members, and they differ in their ids and in their hosts. -/
theorem defect?_eq_none_iff {config : ReplicaConfig} :
    config.defect? = none ↔ config.members ≠ [] ∧ config.ids.Nodup ∧ config.hosts.Nodup := by
  rw [defect?]
  by_cases hempty : config.members = []
  · simp [hempty]
  · have hisEmpty : config.members.isEmpty = false := by simpa using hempty
    rw [hisEmpty]
    by_cases hnodup : config.ids.Nodup ∧ config.hosts.Nodup
    · simp [hempty, hnodup]
    · simp [hempty, hnodup]

end ReplicaConfig

end ClusterConvergence
