import ClusterConvergence.Proofs.ReplicaSet.Undisturbed

/-!
# Ids over several runs

A run hands out no id that is in use.  Whether an id comes to another host in the course of several
runs is another question: the id behind the last one in use is taken for a member that joins, also
if a member that has left had it.  `never_reassigns_iff` says when that happens, and that it never
happens within one run.
-/

namespace ClusterConvergence

/-- A reconciler: where its local daemon is, and which replica set it takes care of. -/
structure Reconciler where
  port : UInt16
  solo : Bool
  name : String

/-- Nothing interferes, every address answers, and there is a live configuration without defect. -/
structure Serene (cluster : Cluster) (live : ReplicaConfig) : Prop extends
    Cluster.Quiet cluster where
  reachable : ∀ address, cluster.unreachable.contains address = false
  replicaSet : cluster.replicaSet = some live
  valid : live.defect? = none

theorem Serene.of_follows {before after : Cluster} {live next : ReplicaConfig}
    (hserene : Serene before live) (hfollows : Follows before after)
    (hafter : after.replicaSet = some next) (hvalid : next.defect? = none) : Serene after next where
  toQuiet := hfollows.quiet hserene.toQuiet
  reachable := hfollows.unreachable ▸ hserene.reachable
  replicaSet := hafter
  valid := hvalid

/-- A live configuration lists this host under this id. -/
def Holds (cluster : Cluster) (id : UInt32) (host : String) : Prop :=
  ∃ live, cluster.replicaSet = some live ∧ ⟨id, host⟩ ∈ live.members

namespace Reconciler

variable (reconciler : Reconciler)

/-- A run at a site. -/
def run (site : Site) (candidates : List Node) : Except Abort ReplicaSetOutcome × Site :=
  (convergeReplicaSet reconciler.port reconciler.solo reconciler.name candidates).run.run site

/-- The site after several runs. -/
def after (site : Site) (lists : List (List Node)) : Site :=
  lists.foldl (fun site candidates => (reconciler.run site candidates).2) site

/-- A run is a hostname migration, and it gives a member another host. -/
def Renames (site : Site) (candidates : List Node) (host host' : String) : Prop :=
  ∃ version id,
    (reconciler.run site candidates).1 = .ok (.configCurrent version .hostnameMigration) ∧
    Holds site.cluster id host ∧ Holds (reconciler.run site candidates).2.cluster id host'

/-- What some of the hostname migrations among several runs make of a host; without any it stays. -/
def Becomes (site : Site) : List (List Node) → String → String → Prop
  | [], host, host' => host = host'
  | candidates :: lists, host, host' =>
    Becomes (reconciler.run site candidates).2 lists host host' ∨
      ∃ between, reconciler.Renames site candidates host between ∧
        Becomes (reconciler.run site candidates).2 lists between host'

variable {reconciler} {site : Site} {live : ReplicaConfig} {candidates : List Node}
  {lists : List (List Node)}

@[simp] theorem after_append (done rest : List (List Node)) :
    reconciler.after site (done ++ rest) = reconciler.after (reconciler.after site done) rest :=
  List.foldl_append

theorem after_concat (done : List (List Node)) (candidates : List Node) :
    reconciler.after site (done ++ [candidates]) =
      (reconciler.run (reconciler.after site done) candidates).2 := by
  rw [after_append]
  rfl

theorem becomes_append {done rest : List (List Node)} {host host' : String} :
    reconciler.Becomes site (done ++ rest) host host' ↔
      ∃ between, reconciler.Becomes site done host between ∧
        reconciler.Becomes (reconciler.after site done) rest between host' := by
  induction done generalizing site host with
  | nil =>
    constructor
    · exact fun h => ⟨host, rfl, h⟩
    · rintro ⟨_, rfl, h⟩
      exact h
  | cons candidates done ih =>
    show _ ∨ _ ↔ _
    constructor
    · rintro (h | ⟨first, hrenames, h⟩)
      · obtain ⟨between, hdone, hrest⟩ := ih.1 h
        exact ⟨between, Or.inl hdone, hrest⟩
      · obtain ⟨between, hdone, hrest⟩ := ih.1 h
        exact ⟨between, Or.inr ⟨first, hrenames, hdone⟩, hrest⟩
    · rintro ⟨between, hdone | ⟨first, hrenames, hdone⟩, hrest⟩
      · exact Or.inl (ih.2 ⟨between, hdone, hrest⟩)
      · exact Or.inr ⟨first, hrenames, ih.2 ⟨between, hdone, hrest⟩⟩

/-! ## One run -/

/-- The members that a run lets join: those for which it prepares an exchange. -/
def Joins (reconciler : Reconciler) (cluster : Cluster) (candidates : List Node) (m : Member) :
    Prop :=
  ∃ live, cluster.replicaSet = some live ∧ live.id = reconciler.name ∧
    (DesiredMembers.ofCandidates candidates).compare live = .drift ∧
    live.HasRoom (DesiredMembers.ofCandidates candidates).hosts ∧
    m ∈ live.joined (DesiredMembers.ofCandidates candidates).hosts

theorem run_serene (hserene : Serene site.cluster live) (hcandidates : candidates ≠ [])
    (hid : live.id = reconciler.name) :
    (reconciler.run site candidates).1 =
        ending ((DesiredMembers.ofCandidates candidates).verdict live) ∧
      Leaves (.ofCandidates candidates) live site.cluster
        (reconciler.run site candidates).2.cluster := by
  refine run_undisturbed hcandidates ⟨hserene.toQuiet, hserene.reachable _⟩ hserene.replicaSet hid
    fun _ => ?_
  obtain ⟨m, hm⟩ := List.exists_mem_of_ne_nil _
    (ReplicaConfig.defect?_eq_none_iff.1 hserene.valid).1
  exact ⟨m.host, List.mem_map_of_mem hm, hserene.reachable _⟩

/-- A valid successor takes the place of the live configuration. -/
theorem run_of_send {next : ReplicaConfig} {action : ReplicaSetAction}
    (hserene : Serene site.cluster live) (hcandidates : candidates ≠ [])
    (hid : live.id = reconciler.name)
    (hsend : (DesiredMembers.ofCandidates candidates).remedy live = .ok (some (next, action)))
    (hvalid : next.defect? = none) :
    (reconciler.run site candidates).1 = .ok (.configCurrent next.version action) ∧
      Serene (reconciler.run site candidates).2.cluster next := by
  obtain ⟨hresult, hleaves⟩ := run_serene hserene hcandidates hid
  rw [DesiredMembers.verdict, hsend] at hresult
  simp only [hvalid] at hresult
  refine ⟨hresult, hserene.of_follows hleaves.follows ?_ hvalid⟩
  rw [hleaves.replicaSet, DesiredMembers.result, hsend]
  simp only [hvalid, Option.isNone_none, if_true]

/-- All that a run does: it leaves the live configuration, or puts a valid successor in its place.
-/
theorem run_cases (hserene : Serene site.cluster live) (hcandidates : candidates ≠ []) :
    Serene (reconciler.run site candidates).2.cluster live ∨
    ∃ next action, live.id = reconciler.name ∧
      (DesiredMembers.ofCandidates candidates).remedy live = .ok (some (next, action)) ∧
      (reconciler.run site candidates).1 = .ok (.configCurrent next.version action) ∧
      Serene (reconciler.run site candidates).2.cluster next := by
  by_cases hid : live.id = reconciler.name
  · have hleaves := (run_serene hserene hcandidates hid).2
    have hafter := hleaves.replicaSet
    rw [DesiredMembers.result] at hafter
    split at hafter
    · next next action hsend =>
      cases hvalid : next.defect? with
      | none =>
        obtain ⟨hresult, hnext⟩ := run_of_send hserene hcandidates hid hsend hvalid
        exact Or.inr ⟨next, action, hid, hsend, hresult, hnext⟩
      | some reason =>
        rw [hvalid] at hafter
        exact Or.inl (hserene.of_follows hleaves.follows hafter hserene.valid)
    · exact Or.inl (hserene.of_follows hleaves.follows hafter hserene.valid)
  · obtain ⟨-, hkeeps⟩ := @run_of_other site reconciler.port reconciler.solo _ _ _
      hcandidates ⟨hserene.toQuiet, hserene.reachable _⟩ hserene.replicaSet hid
    exact Or.inl (hserene.of_follows hkeeps.toFollows (hkeeps.replicaSet.trans hserene.replicaSet)
      hserene.valid)

/-- A run leaves a valid configuration. -/
theorem exists_serene (hserene : Serene site.cluster live) (hcandidates : candidates ≠ []) :
    ∃ next, Serene (reconciler.run site candidates).2.cluster next := by
  rcases run_cases hserene hcandidates with h | ⟨next, _, -, -, -, h⟩
  · exact ⟨live, h⟩
  · exact ⟨next, h⟩

/-- Wherever a host comes from that has an id after a run: it had that id before, or it was given to
the member by a migration, or the member has joined. -/
theorem holds_cases (hserene : Serene site.cluster live) (hcandidates : candidates ≠ [])
    {id : UInt32} {host : String}
    (h : Holds (reconciler.run site candidates).2.cluster id host) :
    Holds site.cluster id host ∨
    (∃ old, Holds site.cluster id old ∧ reconciler.Renames site candidates old host) ∨
    reconciler.Joins site.cluster candidates ⟨id, host⟩ := by
  obtain ⟨live', hlive', hmem⟩ := h
  rcases run_cases hserene hcandidates with
    hkept | ⟨next, action, hid, hsend, hresult, hnext⟩
  · cases hkept.replicaSet.symm.trans hlive'
    exact Or.inl ⟨live, hserene.replicaSet, hmem⟩
  · cases hnext.replicaSet.symm.trans hlive'
    rcases DesiredMembers.remedy_eq_send_iff.1 hsend with
      ⟨-, hrenamed, rfl⟩ | ⟨hcompare, hroom, -, rfl, -⟩
    · obtain ⟨-, -, -, hmembers⟩ := ReplicaConfig.renamed_eq_ok_iff.1 hrenamed
      have hnew := hmem
      rw [hmembers] at hmem
      obtain ⟨m, hm, heq⟩ := List.mem_map.1 hmem
      have hmid : m.id = id := congrArg Member.id heq
      have hold : Holds site.cluster id m.host := ⟨live, hserene.replicaSet, hmid ▸ hm⟩
      exact Or.inr (Or.inl ⟨m.host, hold, live'.version, id, hresult, hold,
        ⟨live', hlive', hnew⟩⟩)
    · rcases List.mem_append.1 hmem with hkept | hjoined
      · exact Or.inl ⟨live, hserene.replicaSet, (List.mem_filter.1 hkept).1⟩
      · exact Or.inr (Or.inr ⟨live, hserene.replicaSet, hid, hcompare, hroom, hjoined⟩)

/-- Whoever joins is listed afterwards, and the run is no migration. -/
theorem of_joins (hserene : Serene site.cluster live) (hcandidates : candidates ≠ []) {m : Member}
    (h : reconciler.Joins site.cluster candidates m) :
    Holds (reconciler.run site candidates).2.cluster m.id m.host ∧
      ∀ host host', ¬ reconciler.Renames site candidates host host' := by
  obtain ⟨found, hfound, hid, hcompare, hroom, hjoined⟩ := h
  cases hserene.replicaSet.symm.trans hfound
  obtain ⟨hne, hids, hhosts⟩ := ReplicaConfig.defect?_eq_none_iff.1 hserene.valid
  -- somebody joins, hence there is something to exchange
  have hempty : (live.diff (DesiredMembers.ofCandidates candidates).hosts).isEmpty = false := by
    rw [MemberDiff.isEmpty, Bool.and_eq_false_iff]
    refine Or.inr (Bool.eq_false_iff.2 fun hnone => ?_)
    rw [ReplicaConfig.joined, List.isEmpty_iff.1 hnone] at hjoined
    cases hjoined
  have hsend := DesiredMembers.remedy_eq_send_iff.2
    (Or.inr ⟨hcompare, hroom, hempty, rfl, rfl⟩)
  have hvalid := ReplicaConfig.defect?_exchanged hroom
    (DesiredMembers.hosts_ofCandidates_ne_nil hcandidates) hids hhosts
  obtain ⟨hresult, hnext⟩ := run_of_send hserene hcandidates hid hsend hvalid
  refine ⟨⟨_, hnext.replicaSet, List.mem_append_right _ hjoined⟩, ?_⟩
  rintro host host' ⟨version, id, hmigration, -⟩
  cases hresult.symm.trans hmigration

/-! ## Several runs -/

theorem exists_serene_after (hserene : Serene site.cluster live)
    (hlists : ∀ candidates ∈ lists, candidates ≠ []) :
    ∃ next, Serene (reconciler.after site lists).cluster next := by
  induction lists generalizing site live with
  | nil => exact ⟨live, hserene⟩
  | cons candidates lists ih =>
    rw [List.forall_mem_cons] at hlists
    obtain ⟨next, hnext⟩ := exists_serene hserene hlists.1
    exact ih hnext hlists.2

/-- On the way through several runs, every site is valid. -/
theorem exists_serene_on_way (hserene : Serene site.cluster live)
    (hlists : ∀ candidates ∈ lists, candidates ≠ []) {done rest : List (List Node)}
    (hsplit : lists = done ++ rest) :
    ∃ now, Serene (reconciler.after site done).cluster now :=
  exists_serene_after hserene fun candidates hmem =>
    hlists candidates (hsplit ▸ List.mem_append_left _ hmem)

theorem ne_nil_on_way (hlists : ∀ candidates ∈ lists, candidates ≠ [])
    {done rest : List (List Node)} (hsplit : lists = done ++ candidates :: rest) :
    candidates ≠ [] :=
  hlists candidates (hsplit ▸ List.mem_append_right _ List.mem_cons_self)

/-- In the course of some runs, an id that one observed configuration gives to a host is given by a
later one to that host, or to what migrations made of it. -/
def NeverReassigns (reconciler : Reconciler) (site : Site) (lists : List (List Node)) : Prop :=
  ∀ earlier between rest, lists = earlier ++ between ++ rest →
    ∀ id host host', Holds (reconciler.after site earlier).cluster id host →
      Holds (reconciler.after site (earlier ++ between)).cluster id host' →
      reconciler.Becomes (reconciler.after site earlier) between host host'

/-- In the course of some runs, whoever joins gets an id that no configuration before gave to
another host.  Such an id counts from the highest one that is in use at that time. -/
def JoinersAreNew (reconciler : Reconciler) (site : Site) (lists : List (List Node)) : Prop :=
  ∀ earlier between candidates rest, lists = earlier ++ between ++ candidates :: rest →
    ∀ m, reconciler.Joins (reconciler.after site (earlier ++ between)).cluster candidates m →
    ∀ host, Holds (reconciler.after site earlier).cluster m.id host →
      reconciler.Becomes (reconciler.after site earlier) between host m.host

theorem eq_of_holds (hserene : Serene site.cluster live) {id : UInt32} {host host' : String}
    (h : Holds site.cluster id host) (h' : Holds site.cluster id host') : host = host' := by
  obtain ⟨found, hfound, hmem⟩ := h
  obtain ⟨found', hfound', hmem'⟩ := h'
  cases hserene.replicaSet.symm.trans hfound
  cases hserene.replicaSet.symm.trans hfound'
  have hids := (ReplicaConfig.defect?_eq_none_iff.1 hserene.valid).2.1
  exact congrArg Member.host (Member.eq_of_id hids hmem hmem' rfl)

/-- Whoever joins gets an id that is not in use. -/
theorem not_holds_of_joins {m : Member} (h : reconciler.Joins site.cluster candidates m)
    {host : String} : ¬ Holds site.cluster m.id host := by
  rintro ⟨found, hfound, hmem⟩
  obtain ⟨live, hlive, -, -, hroom, hjoined⟩ := h
  cases hlive.symm.trans hfound
  have hlt := ReplicaConfig.lt_freshNat (List.mem_map_of_mem hmem)
  exact absurd hlt (Nat.not_lt.2 (ReplicaConfig.id_of_mem_joined hroom hjoined).1)

/-- Within one run an id stays with its host, or with what a migration makes of it. -/
theorem eq_or_renames (hserene : Serene site.cluster live) (hcandidates : candidates ≠ [])
    {id : UInt32} {host host' : String} (h : Holds site.cluster id host)
    (h' : Holds (reconciler.run site candidates).2.cluster id host') :
    host = host' ∨ reconciler.Renames site candidates host host' := by
  rcases holds_cases hserene hcandidates h' with hkept | ⟨old, hold, hrenames⟩ | hjoins
  · exact Or.inl (eq_of_holds hserene h hkept)
  · cases eq_of_holds hserene h hold
    exact Or.inr hrenames
  · exact absurd h (not_holds_of_joins hjoins)

theorem becomes_concat {done : List (List Node)} {host host' : String} :
    reconciler.Becomes site (done ++ [candidates]) host host' ↔
      reconciler.Becomes site done host host' ∨
        ∃ between, reconciler.Becomes site done host between ∧
          reconciler.Renames (reconciler.after site done) candidates between host' := by
  rw [becomes_append]
  constructor
  · rintro ⟨between, hdone, rfl | ⟨_, hrenames, rfl⟩⟩
    · exact Or.inl hdone
    · exact Or.inr ⟨between, hdone, hrenames⟩
  · rintro (hdone | ⟨between, hdone, hrenames⟩)
    · exact ⟨host', hdone, Or.inl rfl⟩
    · exact ⟨between, hdone, Or.inr ⟨host', hrenames, rfl⟩⟩

/-- If only new ids are given to those who join, then no id is ever given away: each run adds to
what the runs before have left. -/
theorem neverReassigns_of_joinersAreNew (hserene : Serene site.cluster live)
    (hlists : ∀ candidates ∈ lists, candidates ≠ []) (hnew : JoinersAreNew reconciler site lists) :
    NeverReassigns reconciler site lists := by
  intro earlier between
  -- on the runs between the two observations, from the last one backwards: a member can leave and
  -- come back, so the first of them says nothing about the rest
  obtain ⟨backwards, rfl⟩ : ∃ backwards, between = backwards.reverse :=
    ⟨between.reverse, (List.reverse_reverse between).symm⟩
  induction backwards with
  | nil =>
    intro rest hsplit id host host' h h'
    rw [List.reverse_nil, List.append_nil] at hsplit h'
    obtain ⟨now, hnow⟩ := exists_serene_on_way hserene hlists hsplit
    exact eq_of_holds hnow h h'
  | cons candidates backwards ih =>
    intro rest hsplit id host host' h h'
    rw [List.reverse_cons] at hsplit h' ⊢
    rw [← List.append_assoc, List.append_assoc, List.singleton_append] at hsplit
    obtain ⟨now, hnow⟩ := exists_serene_on_way hserene hlists hsplit
    rw [← List.append_assoc, after_concat] at h'
    rw [becomes_concat, ← after_append]
    have hbefore := ih (candidates :: rest) hsplit id host
    rcases holds_cases hnow (ne_nil_on_way hlists hsplit) h' with
      hkept | ⟨old, hold, hrenames⟩ | hjoins
    · exact Or.inl (hbefore host' h hkept)
    · exact Or.inr ⟨old, hbefore old h hold, hrenames⟩
    · exact Or.inl (hnew earlier _ candidates rest hsplit _ hjoins host h)

theorem joinersAreNew_of_neverReassigns (hserene : Serene site.cluster live)
    (hlists : ∀ candidates ∈ lists, candidates ≠ [])
    (hnever : NeverReassigns reconciler site lists) : JoinersAreNew reconciler site lists := by
  intro earlier between candidates rest hsplit m hjoins host h
  obtain ⟨now, hnow⟩ := exists_serene_on_way hserene hlists hsplit
  obtain ⟨hlisted, hnot⟩ := of_joins hnow (ne_nil_on_way hlists hsplit) hjoins
  have hsplit' : lists = earlier ++ (between ++ [candidates]) ++ rest := by
    rw [hsplit, ← List.append_assoc, List.append_assoc _ [candidates], List.singleton_append]
  rw [← after_concat, List.append_assoc] at hlisted
  have hbecomes := hnever earlier (between ++ [candidates]) rest hsplit' m.id host m.host h hlisted
  rw [becomes_concat, ← after_append] at hbecomes
  rcases hbecomes with hbecomes | ⟨old, -, hrenames⟩
  · exact hbecomes
  · exact absurd hrenames (hnot old m.host)

/-- Within each run, an id stays with its host or with what a migration makes of it.  In the course
of several runs that is so exactly if none of those who join gets an id that an earlier
configuration gave to another host. -/
theorem never_reassigns_iff (hserene : Serene site.cluster live)
    (hlists : ∀ candidates ∈ lists, candidates ≠ []) :
    (∀ earlier candidates rest, lists = earlier ++ candidates :: rest →
      ∀ id host host', Holds (reconciler.after site earlier).cluster id host →
        Holds (reconciler.after site (earlier ++ [candidates])).cluster id host' →
        host = host' ∨ reconciler.Renames (reconciler.after site earlier) candidates host host') ∧
    (NeverReassigns reconciler site lists ↔ JoinersAreNew reconciler site lists) := by
  refine ⟨?_, joinersAreNew_of_neverReassigns hserene hlists,
    neverReassigns_of_joinersAreNew hserene hlists⟩
  intro earlier candidates rest hsplit id host host' h h'
  obtain ⟨now, hnow⟩ := exists_serene_on_way hserene hlists hsplit
  rw [after_concat] at h'
  exact eq_or_renames hnow (ne_nil_on_way hlists hsplit) h h'

/-- As long as the highest id that was ever seen is in use whenever somebody joins, no id is given
away. -/
theorem neverReassigns_of_highest_in_use (hserene : Serene site.cluster live)
    (hlists : ∀ candidates ∈ lists, candidates ≠ [])
    (hhighest : ∀ earlier between candidates rest,
      lists = earlier ++ between ++ candidates :: rest →
      ∀ m, reconciler.Joins (reconciler.after site (earlier ++ between)).cluster candidates m →
      ∀ id host, Holds (reconciler.after site earlier).cluster id host →
      ∃ top host',
        Holds (reconciler.after site (earlier ++ between)).cluster top host' ∧ id ≤ top) :
    NeverReassigns reconciler site lists := by
  refine neverReassigns_of_joinersAreNew hserene hlists ?_
  intro earlier between candidates rest hsplit m hjoins host h
  obtain ⟨top, host', ⟨found, hfound, hmem⟩, hle⟩ :=
    hhighest earlier between candidates rest hsplit m hjoins m.id host h
  obtain ⟨now, hnow, -, -, hroom, hjoined⟩ := hjoins
  cases hnow.symm.trans hfound
  have hlt : top.toNat < found.freshNat := ReplicaConfig.lt_freshNat (List.mem_map_of_mem hmem)
  have hid := (ReplicaConfig.id_of_mem_joined hroom hjoined).1
  rw [UInt32.le_iff_toNat_le] at hle
  omega

/-! ## A member that leaves and one that joins -/

/-- A reconciler of the replica set `rs0`. -/
def ofRs0 : Reconciler := ⟨27017, false, "rs0"⟩

/-- The members are `a` and `b`. -/
def pair : ReplicaConfig :=
  { id := "rs0", members := [⟨0, "a.cluster:27017"⟩, ⟨1, "b.cluster:27017"⟩] }

/-- Nothing interferes with this site, where `pair` is live. -/
def pairSite : Site where
  cluster := { replicaSet := some pair }

/-- The node `a`. -/
def nodeA : Node := { name := "a", fqdn := "a.cluster", ipAddress := "10.0.0.1" }

/-- The node `c`. -/
def nodeC : Node := { name := "c", fqdn := "c.cluster", ipAddress := "10.0.0.3" }

/-- First `b` leaves, then `c` joins. -/
def leaveAndJoin : List (List Node) := [[nodeA], [nodeA, nodeC]]

theorem serene_pairSite : Serene pairSite.cluster pair :=
  ⟨⟨rfl, rfl⟩, fun _ => rfl, rfl, by decide⟩

theorem not_renames_leave (host host' : String) :
    ¬ ofRs0.Renames pairSite [nodeA] host host' := by
  have hsorted : Node.sorted [nodeA] = [nodeA] := DesiredMembers.sorted_eq_self (by decide)
  have hrun : (ofRs0.run pairSite [nodeA]).1 =
      .ok (.configCurrent 2 (.memberDiff ⟨["b.cluster:27017"], []⟩)) := by
    refine eq_ok_of_toOption ?_
    simp only [run, convergeReplicaSet, DesiredMembers.ofCandidates, hsorted, Step.converge,
      Step.adjust, DesiredMembers.compare, sameMembers_eq_isPerm]
    decide +kernel
  rintro ⟨version, id, hmigration, -⟩
  cases hrun.symm.trans hmigration

theorem after_leave_and_join :
    (ofRs0.run (ofRs0.run pairSite [nodeA]).2 [nodeA, nodeC]).1 =
        .ok (.configCurrent 3 (.memberDiff ⟨[], ["c.cluster:27017"]⟩)) ∧
      (ofRs0.after pairSite leaveAndJoin).cluster.replicaSet = some
        { id := "rs0", version := 3
          members := [⟨0, "a.cluster:27017"⟩, ⟨1, "c.cluster:27017"⟩] } := by
  have hsorted : Node.sorted [nodeA] = [nodeA] := DesiredMembers.sorted_eq_self (by decide)
  have hsorted' : Node.sorted [nodeA, nodeC] = [nodeA, nodeC] :=
    DesiredMembers.sorted_eq_self (by decide)
  constructor
  · refine eq_ok_of_toOption ?_
    simp only [run, convergeReplicaSet, DesiredMembers.ofCandidates, hsorted, hsorted',
      Step.converge, Step.adjust, DesiredMembers.compare, sameMembers_eq_isPerm]
    decide +kernel
  · simp only [after, leaveAndJoin, List.foldl_cons, List.foldl_nil, run, convergeReplicaSet,
      DesiredMembers.ofCandidates, hsorted, hsorted', Step.converge, Step.adjust,
      DesiredMembers.compare, sameMembers_eq_isPerm]
    decide +kernel

theorem ne_nil_of_mem_leaveAndJoin : ∀ candidates ∈ leaveAndJoin, candidates ≠ [] := by
  decide

/-- There is no migration on the way. -/
theorem eq_of_becomes_leaveAndJoin {host host' : String}
    (h : ofRs0.Becomes pairSite leaveAndJoin host host') : host = host' := by
  rcases h with (heq | ⟨_, ⟨_, _, hmigration, -⟩, -⟩) | ⟨_, hrenames, -⟩
  · exact heq
  · cases after_leave_and_join.1.symm.trans hmigration
  · exact absurd hrenames (not_renames_leave _ _)

theorem not_neverReassigns_leaveAndJoin : ¬ NeverReassigns ofRs0 pairSite leaveAndJoin := by
  intro hnever
  have hbecomes := hnever [] leaveAndJoin [] rfl 1 "b.cluster:27017" "c.cluster:27017"
    ⟨pair, rfl, by decide⟩ ⟨_, after_leave_and_join.2, by decide⟩
  exact absurd (eq_of_becomes_leaveAndJoin hbecomes) (by decide)

theorem never_reassigns_iff_leaveAndJoin :
    Serene pairSite.cluster pair ∧ (∀ candidates ∈ leaveAndJoin, candidates ≠ []) ∧
      (∀ host, Holds (ofRs0.after pairSite [[nodeA]]).cluster 0 host → host = "a.cluster:27017") ∧
      ¬ JoinersAreNew ofRs0 pairSite leaveAndJoin := by
  obtain ⟨hwithin, hiff⟩ :=
    @never_reassigns_iff ofRs0 pairSite pair leaveAndJoin serene_pairSite ne_nil_of_mem_leaveAndJoin
  refine ⟨serene_pairSite, ne_nil_of_mem_leaveAndJoin, fun host hholds => ?_,
    mt hiff.2 not_neverReassigns_leaveAndJoin⟩
  rcases hwithin [] [nodeA] _ rfl 0 "a.cluster:27017" host ⟨pair, rfl, by decide⟩ hholds with
    heq | hrenames
  · exact heq.symm
  · exact absurd hrenames (not_renames_leave _ _)

/-- When `b` has left and `c` joins, the id of `b` goes to `c`. -/
theorem departed_id_given_away :
    Serene pairSite.cluster pair ∧ (∀ candidates ∈ leaveAndJoin, candidates ≠ []) ∧
      Holds pairSite.cluster 1 "b.cluster:27017" ∧
      Holds (ofRs0.after pairSite leaveAndJoin).cluster 1 "c.cluster:27017" ∧
      ¬ ofRs0.Becomes pairSite leaveAndJoin "b.cluster:27017" "c.cluster:27017" ∧
      ¬ NeverReassigns ofRs0 pairSite leaveAndJoin := by
  refine ⟨serene_pairSite, ne_nil_of_mem_leaveAndJoin, ⟨pair, rfl, by decide⟩,
    ⟨_, after_leave_and_join.2, by decide⟩, ?_, not_neverReassigns_leaveAndJoin⟩
  intro hbecomes
  exact absurd (eq_of_becomes_leaveAndJoin hbecomes) (by decide)

end Reconciler

end ClusterConvergence
