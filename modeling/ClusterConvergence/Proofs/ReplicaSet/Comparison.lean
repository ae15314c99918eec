import ClusterConvergence.Proofs.ReplicaSet.Members

/-!
# The order of members

The order of the members of a configuration means nothing: members are compared as multisets, so
how a live configuration compares with the desired members, and whether it shows that another one
was put into effect, can be told from any rearrangement of it.  To show that is a preorder on
configurations; it is no equivalence, since a higher version will do and a lower one will not.

Main statement: `order_of_members_does_not_matter`.
-/

namespace ClusterConvergence

namespace DesiredMembers

variable {live : ReplicaConfig} {members : List Member}

/-- A live configuration has the desired members if it is a rearrangement of them. -/
theorem compare_eq (desired : DesiredMembers) (live : ReplicaConfig) :
    desired.compare live =
      if live.members.Perm desired.byHost then .current
      else if live.members.Perm desired.byIp then .byNumber
      else .drift := by
  simp only [compare, sameMembers_iff_perm]

theorem compare_with_members (desired : DesiredMembers) (hperm : members.Perm live.members) :
    desired.compare { live with members := members } = desired.compare live := by
  simp only [compare_eq, hperm.congr_left]

end DesiredMembers

namespace ReplicaConfig

variable {a b c live expected next : ReplicaConfig} {members members' : List Member}

theorem reflects_iff :
    live.reflects expected = true ↔
      live.id = expected.id ∧ expected.version ≤ live.version ∧
        live.members.Perm expected.members := by
  simp only [reflects, Bool.and_eq_true, beq_iff_eq, decide_eq_true_eq, sameMembers_iff_perm,
    and_assoc]

@[simp] theorem reflects_self (config : ReplicaConfig) : config.reflects config = true :=
  reflects_iff.2 ⟨rfl, UInt64.le_refl _, List.Perm.refl _⟩

/-- A configuration does not reflect one that came later. -/
theorem reflects_eq_false_of_lt (hversion : live.version < next.version) :
    live.reflects next = false := by
  rw [Bool.eq_false_iff, ne_eq, reflects_iff]
  exact fun h => UInt64.not_le.2 hversion h.2.1

/-- A change that is shown by one configuration is shown by all that show this one. -/
theorem reflects_trans (hab : a.reflects b = true) (hbc : b.reflects c = true) :
    a.reflects c = true := by
  obtain ⟨hid, hversion, hperm⟩ := reflects_iff.1 hab
  obtain ⟨hid', hversion', hperm'⟩ := reflects_iff.1 hbc
  exact reflects_iff.2
    ⟨hid.trans hid', UInt64.le_trans hversion' hversion, hperm.trans hperm'⟩

theorem reflects_with_members (hlive : members.Perm live.members)
    (hexpected : members'.Perm expected.members) :
    { live with members := members }.reflects { expected with members := members' } =
      live.reflects expected := by
  rw [Bool.eq_iff_iff, reflects_iff, reflects_iff, hlive.congr_left, hexpected.congr_right]

end ReplicaConfig

/-- Members are compared as multisets: two lists are the same exactly if one is a rearrangement of
the other, and a member that is repeated counts as often as it stands there.

Therefore the comparison with desired members, whatever these are, does not depend on the order of
the live members.  And to reflect, which asks for the same replica set, a version that is at least
as high and the same members, is a preorder that does not depend on the order of the members on
either side. -/
theorem order_of_members_does_not_matter :
    (∀ a b : List Member, sameMembers a b = true ↔ b.Perm a) ∧
    (∀ (desired : DesiredMembers) (live : ReplicaConfig),
      desired.compare live =
        (if live.members.Perm desired.byHost then .current
          else if live.members.Perm desired.byIp then .byNumber else .drift) ∧
      ∀ members, members.Perm live.members →
        desired.compare { live with members := members } = desired.compare live) ∧
    (∀ live expected : ReplicaConfig,
      (live.reflects expected = true ↔ live.id = expected.id ∧
        expected.version ≤ live.version ∧ live.members.Perm expected.members) ∧
      ∀ members members', members.Perm live.members → members'.Perm expected.members →
        { live with members := members }.reflects { expected with members := members' } =
          live.reflects expected) ∧
    (∀ config : ReplicaConfig, config.reflects config = true) ∧
    ∀ a b c : ReplicaConfig, a.reflects b = true → b.reflects c = true → a.reflects c = true := by
  refine ⟨fun a b => ?_, fun desired live => ?_, fun live expected => ?_, ?_, ?_⟩
  · rw [sameMembers_iff_perm]
    exact List.perm_comm
  · exact ⟨desired.compare_eq live, fun members hperm => desired.compare_with_members hperm⟩
  · exact ⟨ReplicaConfig.reflects_iff, fun members members' => ReplicaConfig.reflects_with_members⟩
  · exact ReplicaConfig.reflects_self
  · exact fun a b c => ReplicaConfig.reflects_trans

/-- Three configurations of which each shows that the next one was put into effect, and none the
other way round.  One member is listed twice, and two share an id. -/
theorem order_of_members_does_not_matter_for_repeated_member :
    let a : ReplicaConfig :=
      { id := "rs", version := 9, members := [⟨1, "b:1"⟩, ⟨1, "a:1"⟩, ⟨1, "b:1"⟩] }
    let b : ReplicaConfig :=
      { id := "rs", version := 8, members := [⟨1, "a:1"⟩, ⟨1, "b:1"⟩, ⟨1, "b:1"⟩] }
    let c : ReplicaConfig :=
      { id := "rs", version := 2, members := [⟨1, "b:1"⟩, ⟨1, "b:1"⟩, ⟨1, "a:1"⟩] }
    let once : List Member := [⟨1, "a:1"⟩, ⟨1, "a:1"⟩, ⟨1, "b:1"⟩]
    let desired : DesiredMembers := ⟨once, b.members, Dict.empty⟩
    sameMembers a.members b.members = true ∧ sameMembers a.members once = false ∧
      desired.compare a = .byNumber ∧ desired.compare a = desired.compare c ∧
      a.reflects b = true ∧ b.reflects c = true ∧ a.reflects c = true ∧ c.reflects a = false := by
  intro a b c once desired
  obtain ⟨hsame, hcompare, hreflects, -, htrans⟩ := order_of_members_does_not_matter
  have hab : a.members.Perm b.members := by decide
  have hbc : b.members.Perm c.members := by decide
  have hshows : a.reflects b = true := (hreflects a b).1.2 ⟨rfl, by decide, hab⟩
  have hshows' : b.reflects c = true := (hreflects b c).1.2 ⟨rfl, by decide, hbc⟩
  refine ⟨(hsame _ _).2 hab.symm, ?_, ?_, ?_, hshows, hshows', htrans a b c hshows hshows', ?_⟩
  · rw [Bool.eq_false_iff, ne_eq, hsame]
    decide
  · rw [(hcompare desired a).1]
    decide
  · exact (hcompare desired c).2 a.members (hab.trans hbc)
  · rw [Bool.eq_false_iff, ne_eq, (hreflects c a).1]
    decide

end ClusterConvergence
