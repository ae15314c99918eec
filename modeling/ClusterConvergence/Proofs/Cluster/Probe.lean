import ClusterConvergence.Proofs.Activity
import ClusterConvergence.Proofs.Cluster.Dialogue

/-!
# Looking for a session

Opening a session, saying hello and giving a session back changes neither the replica set nor the
routing layer.  Whatever a search through a list of members does is made of these three steps, and
so is `Probed`.  At a single address there is nothing to search, and nothing is said: `Sought`.

Where nothing interferes, a search finds a session if the target can be reached at all
(`Activity.yields_connect`).
-/

namespace ClusterConvergence

namespace Cluster

/-- Nothing interferes: no fault waits, and connections are not limited. -/
structure Quiet (cluster : Cluster) : Prop where
  faults : cluster.faults = []
  budget : cluster.budget = none

/-- Whether some address of a target answers. -/
def Reaches (cluster : Cluster) : Target → Prop
  | .single address => cluster.unreachable.contains address = false
  | .members hosts => ∃ host ∈ hosts, cluster.unreachable.contains host = false

theorem Reaches.congr {a b : Cluster} {target : Target} (h : a.Reaches target)
    (hsame : b.unreachable = a.unreachable) : b.Reaches target := by
  cases target with
  | single address => rwa [Reaches, hsame]
  | members hosts => rwa [Reaches, hsame]

namespace Quiet

variable {cluster : Cluster}

theorem openSession_fst (h : cluster.Quiet) {address : String}
    (hreachable : cluster.unreachable.contains address = false) :
    (cluster.openSession address).1 = .ok ⟨address⟩ := by
  refine openSession_of_accepts ?_
  rw [accepts, hreachable, h.budget]
  rfl

theorem not_forges (h : cluster.Quiet) (name : String) : ¬ cluster.Forges name := by
  rintro ⟨reply, hmem⟩
  rw [h.faults] at hmem
  cases hmem

/-- A command that nothing interferes with is answered. -/
theorem run_eq (h : cluster.Quiet) (session : Session) (command : AdminCommand) :
    cluster.run session command =
      (.ok ((cluster.received command).apply session.address command).1,
        ((cluster.received command).apply session.address command).2) :=
  run_of_unfaulted (pendingFault_of_faults_nil h.faults)

theorem run_fst (h : cluster.Quiet) (session : Session) (command : AdminCommand) :
    (cluster.run session command).1 =
      .ok ((cluster.received command).apply session.address command).1 := by
  rw [h.run_eq]

theorem run (h : cluster.Quiet) (session : Session) (command : AdminCommand) :
    (cluster.run session command).2.Quiet :=
  ⟨by rw [run_faults, h.faults]; rfl, by rw [run_budget, h.budget]⟩

end Quiet

end Cluster

/-- One cluster came from another by opening sessions, saying hello and giving sessions back. -/
structure Probed (before after : Cluster) : Prop where
  replicaSet : after.replicaSet = before.replicaSet
  shards : after.shards = before.shards
  databases : after.databases = before.databases
  collections : after.collections = before.collections
  primary : after.primary = before.primary
  unreachable : after.unreachable = before.unreachable
  budget : before.budget = none → after.budget = none
  faults : after.faults.Sublist before.faults
  dialogue : ∃ hellos, Dialogue before hellos after ∧ ∀ e ∈ hellos, e.command = .hello

namespace Probed

variable {a b c cluster : Cluster}

theorem refl (cluster : Cluster) : Probed cluster cluster where
  replicaSet := rfl
  shards := rfl
  databases := rfl
  collections := rfl
  primary := rfl
  unreachable := rfl
  budget := id
  faults := List.Sublist.refl _
  dialogue := ⟨[], .nil cluster, List.forall_mem_nil _⟩

theorem trans (hab : Probed a b) (hbc : Probed b c) : Probed a c where
  replicaSet := hbc.replicaSet.trans hab.replicaSet
  shards := hbc.shards.trans hab.shards
  databases := hbc.databases.trans hab.databases
  collections := hbc.collections.trans hab.collections
  primary := hbc.primary.trans hab.primary
  unreachable := hbc.unreachable.trans hab.unreachable
  budget := hbc.budget ∘ hab.budget
  faults := hbc.faults.trans hab.faults
  dialogue := by
    obtain ⟨first, hfirst, hellos⟩ := hab.dialogue
    obtain ⟨second, hsecond, hellos'⟩ := hbc.dialogue
    exact ⟨first ++ second, hfirst.trans hsecond, List.forall_mem_append.2 ⟨hellos, hellos'⟩⟩

theorem openSession (cluster : Cluster) (address : String) :
    Probed cluster (cluster.openSession address).2 := by
  have hdialogue := (Dialogue.nil cluster).opened address
  rw [Cluster.openSession] at hdialogue ⊢
  split at hdialogue
  · next haccepts =>
    rw [if_pos haccepts]
    refine { refl cluster with
      budget := fun h => ?_
      dialogue := ⟨[], hdialogue, List.forall_mem_nil _⟩ }
    rw [h]
    rfl
  · next haccepts =>
    rw [if_neg haccepts]
    exact refl cluster

theorem release (cluster : Cluster) : Probed cluster cluster.release :=
  { refl cluster with dialogue := ⟨[], (Dialogue.nil cluster).released, List.forall_mem_nil _⟩ }

theorem hello (cluster : Cluster) (session : Session) :
    Probed cluster (cluster.run session .hello).2 := by
  have hdialogue : ∃ hellos, Dialogue cluster hellos (cluster.run session .hello).2 ∧
      ∀ e ∈ hellos, e.command = .hello :=
    ⟨_, (Dialogue.nil cluster).sent rfl, fun _ hmem => List.mem_singleton.1 hmem ▸ rfl⟩
  have hreceived : (cluster.run session .hello).2 = cluster.received .hello := by
    cases hcarried : cluster.carriesOut session .hello with
    | true => exact Cluster.run_of_carriesOut hcarried
    | false => exact Cluster.run_of_not_carriesOut hcarried
  rw [hreceived] at hdialogue ⊢
  exact { refl cluster with faults := takeFault_sublist _ _, dialogue := hdialogue }

theorem forges {name : String} (h : Probed a b) (hforges : b.Forges name) : a.Forges name := by
  obtain ⟨reply, hmem⟩ := hforges
  exact ⟨reply, h.faults.subset hmem⟩

theorem quiet (h : Probed a b) (hquiet : a.Quiet) : b.Quiet :=
  ⟨List.sublist_nil.1 (hquiet.faults ▸ h.faults), h.budget hquiet.budget⟩

/-- A search sends nothing but hello. -/
theorem count_eq (h : Probed a b) {name : String} (hname : name ≠ "hello") :
    b.count name = a.count name := by
  obtain ⟨hellos, hdialogue, hhello⟩ := h.dialogue
  rw [Cluster.count, Cluster.count, hdialogue.commands, List.countP_append,
    countP_hellos hhello hname, Nat.add_zero]

end Probed

/-- One cluster came from another by a search for a session at a target.  At a single address there
is nobody to say hello to. -/
structure Sought (target : Target) (before after : Cluster) : Prop extends Probed before after where
  silent : ∀ address, target = .single address → Dialogue before [] after

namespace Sought

theorem refl (target : Target) (cluster : Cluster) : Sought target cluster cluster :=
  { Probed.refl cluster with silent := fun _ _ => .nil cluster }

theorem release (target : Target) (cluster : Cluster) : Sought target cluster cluster.release :=
  { Probed.release cluster with silent := fun _ _ => (Dialogue.nil cluster).released }

end Sought

namespace Activity

variable {cluster : Cluster}

/-- To give back a session, if there is one, is part of the search for one, whatever the target. -/
theorem yields_releaseAny (session : Option Session) (target : Target) :
    Yields cluster (releaseAny session) fun _ after => Sought target cluster after := by
  cases session with
  | none => exact Yields.pure (Sought.refl target cluster)
  | some session =>
    show Yields cluster (release session) _
    exact Yields.release (Sought.release target cluster)

/-- What may be expected of a search: if nothing interferes, and a session is at hand or some listed
member can be reached, then a session is found. -/
def Finds (cluster : Cluster) (search : Search) (hosts : List String)
    (result : Except Search Session) : Prop :=
  cluster.Quiet →
    search.fallback.isSome = true ∨ (∃ host ∈ hosts, cluster.unreachable.contains host = false) →
    ∀ left, result = .error left → left.fallback.isSome = true

/-- Trying members one after the other is made of the three steps. -/
theorem yields_tryMembers (hosts : List String) (search : Search) :
    Yields cluster (tryMembers search hosts) fun result after =>
      Probed cluster after ∧ Finds cluster search hosts result := by
  induction hosts generalizing search cluster with
  | nil =>
    refine Yields.pure ⟨Probed.refl cluster, ?_⟩
    rintro - (hsome | ⟨host, hmem, -⟩) left ⟨⟩
    · exact hsome
    · cases hmem
  | cons host hosts ih =>
    -- the rest of the search, begun at a cluster that came from this one
    have hrest : ∀ {c : Cluster} (next : Search), Probed cluster c →
        (cluster.Quiet → search.fallback.isSome = true ∨
            cluster.unreachable.contains host = false → next.fallback.isSome = true) →
        Yields c (tryMembers next hosts) fun result after =>
          Probed cluster after ∧ Finds cluster search (host :: hosts) result := by
      intro c next hprobed hnext
      refine (ih next).mono ?_
      rintro result after ⟨hafter, hfinds⟩
      refine ⟨hprobed.trans hafter, fun hquiet hany => hfinds (hprobed.quiet hquiet) ?_⟩
      rw [hprobed.unreachable]
      rcases hany with hsome | ⟨other, hmem, hreachable⟩
      · exact Or.inl (hnext hquiet (Or.inl hsome))
      · rcases List.mem_cons.1 hmem with rfl | hmem
        · exact Or.inl (hnext hquiet (Or.inr hreachable))
        · exact Or.inr ⟨other, hmem, hreachable⟩
    rw [tryMembers]
    refine Yields.bind (Yields.openSession ?_)
    have hopen := Probed.openSession cluster host
    rcases hsession : (cluster.openSession host).1 with failure | session
    · refine Yields.bind (Yields.trace (hrest _ hopen ?_))
      rintro hquiet (hsome | hreachable)
      · exact hsome
      · cases hsession.symm.trans (hquiet.openSession_fst hreachable)
    · refine Yields.bind (Yields.send ?_)
      have hhello := hopen.trans (Probed.hello (cluster.openSession host).2 session)
      rcases hreply : ((cluster.openSession host).2.run session .hello).1 with failure | reply
      · refine Yields.bind (Yields.release (hrest _ (hhello.trans (Probed.release _)) ?_))
        intro hquiet _
        cases hreply.symm.trans ((hopen.quiet hquiet).run_fst session .hello)
      · dsimp only
        split
        · refine Yields.bind ((yields_releaseAny _ (.members hosts)).mono fun _ _ h => ?_)
          exact Yields.pure ⟨hhello.trans h.toProbed, nofun⟩
        · split
          · exact hrest _ hhello fun _ _ => rfl
          · next kept hkept =>
            refine Yields.bind (Yields.release (hrest _ (hhello.trans (Probed.release _)) ?_))
            exact fun _ _ => congrArg Option.isSome hkept

/-- Looking for a session at a list of members is made of the three steps.  If nothing interferes
and some listed member can be reached, a session is found. -/
theorem yields_connectMembers (hosts : List String) :
    Yields cluster (connectMembers hosts) fun result after =>
      Probed cluster after ∧
        (cluster.Quiet → (∃ host ∈ hosts, cluster.unreachable.contains host = false) →
          ∃ session, result = .ok session) := by
  have hsettle : ∀ {left : Search}, Finds cluster {} hosts (.error left) → cluster.Quiet →
      (∃ host ∈ hosts, cluster.unreachable.contains host = false) →
      ∃ session, settle hosts left = .ok session := by
    intro left hfinds hquiet hany
    obtain ⟨session, hsession⟩ := Option.isSome_iff_exists.1 (hfinds hquiet (Or.inr hany) _ rfl)
    exact ⟨session, by rw [settle, hsession]⟩
  rw [connectMembers]
  split
  · next hempty =>
    refine Yields.pure ⟨Probed.refl cluster, ?_⟩
    rintro - ⟨host, hmem, -⟩
    rw [List.isEmpty_iff.1 hempty] at hmem
    cases hmem
  · refine Yields.bind ((yields_tryMembers hosts {}).mono ?_)
    rintro (left | session) c ⟨hprobed, hfinds⟩
    · dsimp only
      split
      · exact Yields.pure ⟨hprobed, hsettle hfinds⟩
      · next primary _ =>
        refine Yields.bind (Yields.openSession ?_)
        have hopen := hprobed.trans (Probed.openSession c primary)
        split
        · refine Yields.bind ((yields_releaseAny _ (.members hosts)).mono fun _ _ h => ?_)
          exact Yields.pure ⟨hopen.trans h.toProbed, fun _ _ => ⟨_, rfl⟩⟩
        · exact Yields.pure ⟨hopen, hsettle hfinds⟩
    · exact Yields.pure ⟨hprobed, fun _ _ => ⟨session, rfl⟩⟩

/-- If nothing interferes and the target can be reached, there is a session in the end. -/
theorem yields_connect (target : Target) :
    Yields cluster (connect target) fun result after =>
      Sought target cluster after ∧
        (cluster.Quiet → cluster.Reaches target → ∃ session, result = .ok session) := by
  cases target with
  | single address =>
    refine Yields.openSession ⟨{ Probed.openSession cluster address with silent := ?_ }, ?_⟩
    · exact fun _ _ => (Dialogue.nil cluster).opened address
    · exact fun hquiet hreaches => ⟨_, hquiet.openSession_fst hreaches⟩
  | members hosts =>
    refine (yields_connectMembers hosts).mono fun result after h => ?_
    exact ⟨{ h.1 with silent := nofun }, h.2⟩

end Activity

end ClusterConvergence
