import Mathlib.Data.List.Basic
import ClusterConvergence.Proofs.ReplicaSet.Soundness

/-!
# What is read back after a lost connection

When the connection is lost over a successor, it may have taken effect, it may have been refused, or
it may never have arrived; whoever sent it cannot tell.  So the live configuration is read again.
It was read once before, and a fault for this question would have hit the first time already: the
second answer is true.  It shows the successor or the configuration from before (`Lost`), and the
version tells them apart.

Main statement: `read_back_decides`.
-/

namespace ClusterConvergence

open Activity

/-- The next command of this name loses its connection, before or after it has its effect. -/
def Cluster.Drops (cluster : Cluster) (name : String) : Prop :=
  (takeFault name cluster.faults).1 = some .drop ∨
    (takeFault name cluster.faults).1 = some .dropAfterApply

/-! ## Before a successor is sent -/

/-- Between two states no successor was sent. -/
def Unsent (start cluster : Cluster) : Prop :=
  Said start (fun exchanges => ∀ e ∈ exchanges, e.command.name ≠ "replSetReconfig") cluster

namespace Unsent

variable {start cluster after : Cluster}

theorem refl (cluster : Cluster) : Unsent cluster cluster :=
  ⟨[], .nil cluster, List.forall_mem_nil _⟩

theorem sent (h : Unsent start cluster) (session : Session) {command : AdminCommand}
    (hname : command.name ≠ "replSetReconfig") : Unsent start (cluster.run session command).2 := by
  obtain ⟨exchanges, hsaid, hunsent⟩ := h
  refine ⟨_, hsaid.sent rfl, List.forall_mem_append.2 ⟨hunsent, ?_⟩⟩
  exact fun e hmem => List.mem_singleton.1 hmem ▸ hname

theorem probed (h : Unsent start cluster) (hprobed : Probed cluster after) :
    Unsent start after := by
  obtain ⟨exchanges, hsaid, hunsent⟩ := h
  obtain ⟨hellos, hdialogue, hhello⟩ := hprobed.dialogue
  refine ⟨_, hsaid.trans hdialogue, List.forall_mem_append.2 ⟨hunsent, fun e hmem => ?_⟩⟩
  rw [hhello e hmem]
  decide

/-- A connection that shall be lost over a successor is not lost before. -/
theorem drops (h : Unsent start cluster) (hdrops : start.Drops "replSetReconfig") :
    cluster.Drops "replSetReconfig" := by
  obtain ⟨exchanges, hsaid, hunsent⟩ := h
  rwa [Cluster.Drops, hsaid.takeFault_fst hunsent]

theorem exists_commands (h : Unsent start cluster) :
    ∃ said, cluster.commands = start.commands ++ said ∧
      ∀ command ∈ said, command.name ≠ "replSetReconfig" := by
  obtain ⟨exchanges, hsaid, hunsent⟩ := h
  refine ⟨_, hsaid.commands, ?_⟩
  rintro command hmem
  obtain ⟨e, he, rfl⟩ := List.mem_map.1 hmem
  exact hunsent e he

end Unsent

/-- The live configuration was read.  It is the one from the start, and it can be read again. -/
structure Told (start : Cluster) (name : String) (live : ReplicaConfig) (cluster : Cluster) :
    Prop where
  unsent : Unsent start cluster
  before : start.replicaSet = some live
  replicaSet : cluster.replicaSet = some live
  id : live.id = name
  unfaulted : cluster.pendingFault (.getConfig name) = none

theorem Told.probed {start cluster after : Cluster} {name : String} {live : ReplicaConfig}
    (h : Told start name live cluster) (hprobed : Probed cluster after) :
    Told start name live after where
  unsent := h.unsent.probed hprobed
  before := h.before
  replicaSet := hprobed.replicaSet.trans h.replicaSet
  id := h.id
  unfaulted := Cluster.unfaulted_of_sublist hprobed.faults h.unfaulted

/-! ## After a successor was sent -/

/-- One successor was sent, and then `rest`.  What became of it is open. -/
structure Lost (start : Cluster) (live next : ReplicaConfig) (rest : List AdminCommand)
    (cluster : Cluster) : Prop where
  before : start.replicaSet = some live
  commands : ∃ said, cluster.commands = start.commands ++ said ++ .reconfig next :: rest ∧
    ∀ command ∈ said, command.name ≠ "replSetReconfig"
  fate : cluster.replicaSet = some live ∨ cluster.replicaSet = some next
  unfaulted : cluster.pendingFault (.getConfig live.id) = none

namespace Lost

variable {start cluster : Cluster} {live next : ReplicaConfig} {rest : List AdminCommand}

theorem released (h : Lost start live next rest cluster) :
    Lost start live next rest cluster.release :=
  ⟨h.before, h.commands, h.fate, h.unfaulted⟩

theorem opened (h : Lost start live next rest cluster) (address : String) :
    Lost start live next rest (cluster.openSession address).2 where
  before := h.before
  commands := by
    rw [Cluster.openSession_commands]
    exact h.commands
  fate := by
    rw [Cluster.openSession_replicaSet]
    exact h.fate
  unfaulted := (cluster.openSession_pendingFault address).trans h.unfaulted

/-- To ask something takes a fault at most. -/
theorem received (h : Lost start live next rest cluster) (command : AdminCommand) :
    Lost start live next (rest ++ [command]) (cluster.received command) where
  before := h.before
  commands := by
    obtain ⟨said, hcommands, hunsent⟩ := h.commands
    refine ⟨said, ?_, hunsent⟩
    show cluster.commands ++ [command] = _
    rw [hcommands, List.append_assoc, List.cons_append]
  fate := h.fate
  unfaulted := Cluster.unfaulted_of_sublist (takeFault_sublist _ _) h.unfaulted

/-- A successor over which the connection is lost was sent, and it took effect or did not. -/
theorem of_told {session : Session} {name : String} (h : Told start name live cluster) :
    Lost start live next [] (cluster.run session (.reconfig next)).2 where
  before := h.before
  commands := by
    obtain ⟨said, hcommands, hunsent⟩ := h.unsent.exists_commands
    exact ⟨said, by rw [Cluster.run_commands, hcommands], hunsent⟩
  fate := by
    cases hcarried : cluster.carriesOut session (.reconfig next) with
    | false => exact Or.inl ((Cluster.run_replicaSet_of_not_carriesOut hcarried).trans h.replicaSet)
    | true => exact Or.inr (Cluster.of_carriesOut_reconfig hcarried).2
  unfaulted :=
    Cluster.unfaulted_of_sublist (cluster.run_faults_sublist session _) (h.id ▸ h.unfaulted)

end Lost

/-- How a convergence ends when the connection was lost over a successor. -/
inductive ReadBack (start : Cluster) (port : UInt16) (live next : ReplicaConfig)
    (action : ReplicaSetAction) : ReplicaSetOutcome → Cluster → Prop where
  /-- There was no session over which to ask. -/
  | unread {cluster : Cluster} {reason : String} (h : Lost start live next [] cluster)
    (hrefused : cluster.accepts (addressOf "localhost" port) = false) :
    ReadBack start port live next action (.failed reason) cluster
  /-- The successor took effect. -/
  | applied {cluster : Cluster} (h : Lost start live next [.getConfig next.id] cluster)
    (hnext : cluster.replicaSet = some next) :
    ReadBack start port live next action (.configCurrent next.version action) cluster
  /-- The successor was refused, or it did not arrive. -/
  | unapplied {cluster : Cluster} {reason : String}
    (h : Lost start live next [.getConfig next.id] cluster)
    (hlive : cluster.replicaSet = some live) :
    ReadBack start port live next action (.failed reason) cluster

/-! ## The steps of a convergence -/

namespace Step

variable {start cluster : Cluster} {session : Session} {name : String} {port : UInt16}
  {live next : ReplicaConfig} {action : ReplicaSetAction} {desired : DesiredMembers}

/-- An answer about the live configuration is true, and the next one will be. -/
theorem fetch_told (hhonest : cluster.Honest) (hunsent : Unsent start cluster)
    (hkept : cluster.replicaSet = start.replicaSet) :
    Ensures cluster (fetch session name) (Told start name) fun _ c => Unsent start c := by
  have hasked : Unsent start (cluster.run session (.getConfig name)).2 :=
    hunsent.sent session (show "replSetGetConfig" ≠ "replSetReconfig" by decide)
  refine ensures_fetch ?_ (fun _ _ _ _ => hasked) fun _ _ => hasked
  rintro reply live hrun ⟨hok, hconfig, hid⟩
  obtain ⟨hlive, -⟩ := Cluster.live_of_getConfig hhonest.getConfig hrun hok hconfig
  refine ⟨hasked, hkept ▸ hlive, ?_, hid, ?_⟩
  · rw [Cluster.run_getConfig_replicaSet, hlive]
  · -- a fault for this question would have hit it now
    have hunfaulted := Cluster.unfaulted_of_answered hhonest.getConfig hrun
    exact Cluster.unfaulted_of_sublist (cluster.run_faults_sublist session _) hunfaulted

theorem initiateOrFetch_told {members : List Member} (hhonest : cluster.Honest)
    (hunsent : Unsent start cluster) (hkept : cluster.replicaSet = start.replicaSet) :
    Ensures cluster (initiateOrFetch session name members)
      (fun found c =>
        match found with
        | none => Unsent start c
        | some live => Told start name live c)
      fun _ c => Unsent start c := by
  have hasked : Unsent start (cluster.run session (.initiate (.initial name members))).2 :=
    hunsent.sent session (show "replSetInitiate" ≠ "replSetReconfig" by decide)
  refine ensures_initiateOrFetch (fun _ _ _ => hasked) ?_ (fun _ _ _ _ => hasked)
    fun _ _ => hasked
  intro reply hrun hreports
  rw [Reply.reports, Bool.and_eq_true, Bool.not_eq_true'] at hreports
  exact fetch_told (hhonest.run _ _) hasked
    ((Cluster.run_replicaSet_of_refused hrun hreports.1).trans hkept)

/-- What is read back is the successor, or what was live before it was sent. -/
theorem readBack_decides {lost : Failure} (h : Lost start live next [] cluster)
    (hid : next.id = live.id) (hversion : live.version < next.version) :
    Ensures cluster (readBack session next action lost)
      (fun outcome c => ReadBack start port live next action outcome c.release)
      fun cause c => ∃ reason, cause = .settled (.failed reason) ∧
        ReadBack start port live next action (.failed reason) c.release := by
  have hasked := (h.received (.getConfig next.id)).released
  have hold := ReplicaConfig.reflects_eq_false_of_lt hversion
  have hunfaulted : cluster.pendingFault (.getConfig next.id) = none := hid ▸ h.unfaulted
  -- whatever is live is told
  have htold : ∀ {found : ReplicaConfig}, cluster.replicaSet = some found →
      found.id = next.id →
      cluster.run session (.getConfig next.id) =
        (.ok { Reply.success with config := some found },
          cluster.received (.getConfig next.id)) :=
    fun hlive hname => Cluster.run_getConfig_of_live hunfaulted hlive hname
  rcases h.fate with hlive | hnext
  · refine ensures_readBack ?_ ?_ <;> rw [htold hlive hid.symm]
    · rintro reply found ⟨⟩ - ⟨⟩ hreflects
      cases hold.symm.trans hreflects
    · exact fun _ reason => ⟨reason, rfl, .unapplied hasked hlive⟩
  · refine ensures_readBack ?_ ?_ <;> rw [htold hnext rfl]
    · rintro reply found ⟨⟩ - ⟨⟩ -
      exact .applied hasked hnext
    · intro hnot
      have hself := hnot _ next rfl (Reply.isOk_withConfig _) rfl
      cases (ReplicaConfig.reflects_self next).symm.trans hself

theorem verify_decides {lost : Failure} (h : Lost start live next [] cluster)
    (hid : next.id = live.id) (hversion : live.version < next.version) :
    Ensures cluster (verify port next action lost)
      (fun outcome c => ReadBack start port live next action outcome c)
      fun cause c => ∃ reason, cause = .settled (.failed reason) ∧
        ReadBack start port live next action (.failed reason) c := by
  refine ensures_verify (Yields.openSession ?_)
  cases haccepts : cluster.accepts (addressOf "localhost" port) with
  | false =>
    rw [Cluster.openSession_of_not_accepts haccepts]
    exact fun reason => ⟨reason, rfl, .unread h haccepts⟩
  | true =>
    rw [Cluster.openSession_of_accepts haccepts]
    exact readBack_decides (h.opened _) hid hversion

/-- A successor is sent, and the connection is lost over it. -/
theorem submit_loses (hdrops : start.Drops "replSetReconfig") (h : Told start name live cluster) :
    Ensures cluster (submit session next action)
      (fun result c => ∃ lost, result = .error lost ∧ Lost start live next [] c)
      fun _ _ => False := by
  obtain ⟨lost, hlost, hconnection⟩ :=
    (@Cluster.exists_lost_iff cluster session (.reconfig next)).2 (h.unsent.drops hdrops)
  refine ensures_submit ?_ ?_ ?_ ?_
  · intro reply hreply
    cases hlost.symm.trans hreply
  · intro reply hreply
    cases hlost.symm.trans hreply
  · intro failure hfailure htimeout
    cases hlost.symm.trans hfailure
    cases hconnection.symm.trans htimeout
  · exact fun failure _ _ => ⟨failure, rfl, .of_told h⟩

end Step

/-- How a convergence ends that loses the connection over whatever successor it sends: it sends
none, or it sends the one that the live configuration calls for, and asks what became of it. -/
def Decides (start : Cluster) (port : UInt16) (name : String) (desired : DesiredMembers)
    (outcome : ReplicaSetOutcome) (cluster : Cluster) : Prop :=
  Unsent start cluster ∨
    ∃ live next action, live.id = name ∧ desired.remedy live = .ok (some (next, action)) ∧
      ReadBack start port live next action outcome cluster

/-- An overflow is found before a successor is sent. -/
def Halt.Decides (start : Cluster) (port : UInt16) (name : String) (desired : DesiredMembers) :
    Halt → Cluster → Prop
  | .settled outcome, cluster => ClusterConvergence.Decides start port name desired outcome cluster
  | .overflow, cluster => Unsent start cluster

theorem Halt.decides_of_unsent {start cluster : Cluster} {port : UInt16} {name : String}
    {desired : DesiredMembers} (cause : Halt) (h : Unsent start cluster) :
    cause.Decides start port name desired cluster := by
  cases cause with
  | settled outcome => exact Or.inl h
  | overflow => exact h

namespace Step

variable {start cluster : Cluster} {name : String} {port : UInt16} {live : ReplicaConfig}
  {desired : DesiredMembers}

theorem reconfigure_decides {next : ReplicaConfig} {action : ReplicaSetAction}
    (hdrops : start.Drops "replSetReconfig") (h : Told start name live cluster)
    (hsend : desired.remedy live = .ok (some (next, action))) :
    Ensures cluster (reconfigure port live next action) (Decides start port name desired)
      fun cause c => cause.Decides start port name desired c := by
  obtain ⟨hid, -, hnext⟩ := DesiredMembers.isSuccessorOf_of_send hsend
  have hversion := DesiredMembers.version_lt_of_send hsend
  have hdecides : ∀ {outcome c}, ReadBack start port live next action outcome c →
      Decides start port name desired outcome c :=
    fun hread => Or.inr ⟨live, next, action, h.id, hsend, hread⟩
  refine ensures_reconfigure hnext (ensures_openAt ((yields_connectMembers _).mono ?_))
  rintro (failure | session) c ⟨hprobed, -⟩
  · exact Halt.decides_of_unsent _ (h.unsent.probed hprobed)
  · refine (submit_loses hdrops (h.probed hprobed)).mono ?_ fun _ _ => False.elim
    rintro _ c' ⟨lost, rfl, hlost⟩
    refine (verify_decides hlost.released hid hversion).mono ?_ ?_
    · exact fun _ _ => hdecides
    · rintro _ c'' ⟨reason, rfl, hread⟩
      exact hdecides hread

theorem adjust_decides (hdrops : start.Drops "replSetReconfig") (h : Told start name live cluster) :
    Ensures cluster (adjust port name desired live) (Decides start port name desired)
      fun cause c => cause.Decides start port name desired c := by
  refine ensures_adjust ?_ ?_ ?_
  · exact fun _ => Or.inl h.unsent
  · exact fun next action hsend => reconfigure_decides hdrops h hsend
  · exact fun cause _ => Halt.decides_of_unsent cause h.unsent

theorem converge_decides (hhonest : cluster.Honest) (hdrops : cluster.Drops "replSetReconfig") :
    Ensures cluster (converge port name desired) (Decides cluster port name desired)
      fun cause c => cause.Decides cluster port name desired c := by
  refine ensures_converge (ensures_openAt (Yields.openSession ?_))
  have hprobed := Probed.openSession cluster (addressOf "localhost" port)
  have hopened := (Unsent.refl cluster).probed hprobed
  split
  · refine (initiateOrFetch_told (hhonest.probed hprobed) hopened hprobed.replicaSet).mono ?_ ?_
    · rintro (- | live) c hfound
      · exact Or.inl (hfound.probed (Probed.release c))
      · exact adjust_decides hdrops (hfound.probed (Probed.release c))
    · exact fun cause c hunsent => Halt.decides_of_unsent cause (hunsent.probed (Probed.release c))
  · exact Or.inl hopened

end Step

/-! ## Runs -/

namespace Lost

variable {start cluster : Cluster} {live next other : ReplicaConfig} {rest said : List AdminCommand}

theorem count_eq (h : Lost start live next rest cluster)
    (hrest : ∀ command ∈ rest, command.name ≠ "replSetReconfig") :
    cluster.count "replSetReconfig" = start.count "replSetReconfig" + 1 := by
  obtain ⟨before, hcommands, hunsent⟩ := h.commands
  have hnone : ∀ {commands : List AdminCommand},
      (∀ command ∈ commands, command.name ≠ "replSetReconfig") →
      commands.countP (·.name == "replSetReconfig") = 0 :=
    fun hother => List.countP_eq_zero.2 fun command hmem => by simpa using hother command hmem
  rw [Cluster.count, Cluster.count, hcommands, List.countP_append, List.countP_append,
    List.countP_cons, hnone hunsent, hnone hrest]
  rfl

/-- Only one of the commands is a successor, so it can be found in the log. -/
theorem eq_of_commands (h : Lost start live next rest cluster)
    (hrest : ∀ command ∈ rest, command.name ≠ "replSetReconfig") {later : List AdminCommand}
    (hsent : cluster.commands = start.commands ++ said ++ .reconfig other :: later) :
    next = other ∧ rest = later := by
  obtain ⟨before, hcommands, hunsent⟩ := h.commands
  rw [hcommands, List.append_assoc, List.append_assoc, List.append_cancel_left_eq,
    List.append_cons_inj_of_notMem (fun hmem => hunsent _ hmem rfl)
      fun hmem => hrest _ hmem rfl] at hsent
  exact ⟨AdminCommand.reconfig.inj hsent.2.1, hsent.2.2⟩

end Lost

theorem Unsent.ne_sent {start cluster : Cluster} (h : Unsent start cluster) {next : ReplicaConfig}
    {said rest : List AdminCommand} :
    cluster.commands ≠ start.commands ++ said ++ .reconfig next :: rest := by
  obtain ⟨sent, hcommands, hunsent⟩ := h.exists_commands
  rw [hcommands, List.append_assoc]
  intro heq
  have hmem : .reconfig next ∈ sent := by
    rw [List.append_cancel_left heq]
    exact List.mem_append_right _ List.mem_cons_self
  exact hunsent _ hmem rfl

theorem convergeReplicaSet_decides {cluster : Cluster} {port : UInt16} {solo : Bool} {name : String}
    {candidates : List Node} (hhonest : cluster.Honest)
    (hdrops : cluster.Drops "replSetReconfig") :
    Ensures cluster (convergeReplicaSet port solo name candidates)
      (Decides cluster port name (.ofCandidates candidates)) fun _ c => Unsent cluster c := by
  rcases candidates with - | ⟨node, nodes⟩
  · have hunsent := Unsent.refl cluster
    exact ensures_convergeReplicaSet_nil (fun _ => hunsent) fun _ => Or.inl hunsent
  · refine ensures_convergeReplicaSet (List.cons_ne_nil _ _)
      ((Step.converge_decides hhonest hdrops).mono (fun _ _ h => h) ?_)
    rintro (outcome | -) c h
    · exact h
    · exact h

/-- When the connection is lost over a successor, no other one is sent, and the successor is what
the live configuration calls for.  If a session can be opened then, the live configuration is read
once more.  The run says that the successor is current exactly if it is live; otherwise the run
fails, and what is live is the configuration from before.  Any faults may hit the other commands, as
long as no reply about the replica set is forged. -/
theorem read_back_decides {site after : Site} {port : UInt16} {solo : Bool} {name : String}
    {candidates : List Node} {result : Except Abort ReplicaSetOutcome} {next : ReplicaConfig}
    {said rest : List AdminCommand} (hhonest : site.cluster.Honest)
    (hdrops : site.cluster.Drops "replSetReconfig")
    (hrun : (convergeReplicaSet port solo name candidates).run.run site = (result, after))
    (hsent : after.cluster.commands = site.cluster.commands ++ said ++ .reconfig next :: rest) :
    after.cluster.count "replSetReconfig" = site.cluster.count "replSetReconfig" + 1 ∧
    ∃ live action, site.cluster.replicaSet = some live ∧ live.id = name ∧
      (DesiredMembers.ofCandidates candidates).remedy live = .ok (some (next, action)) ∧
      (rest = [] ∧ after.cluster.accepts (addressOf "localhost" port) = false ∧
          (∃ reason, result = .ok (.failed reason)) ∨
        rest = [.getConfig next.id] ∧
          (result = .ok (.configCurrent next.version action) ↔
            after.cluster.replicaSet = some next) ∧
          (result ≠ .ok (.configCurrent next.version action) →
            (∃ reason, result = .ok (.failed reason)) ∧ after.cluster.replicaSet = some live)) := by
  have hends :=
    Yields.of_run (@convergeReplicaSet_decides _ port solo name candidates hhonest hdrops)
  rw [hrun] at hends
  rcases result with cause | outcome
  · exact absurd hsent hends.ne_sent
  rcases hends with hunsent | ⟨live, sent, action, hid, hsend, hread⟩
  · exact absurd hsent hunsent.ne_sent
  have hversion := DesiredMembers.version_lt_of_send hsend
  have hasked : ∀ command ∈ [AdminCommand.getConfig sent.id], command.name ≠ "replSetReconfig" := by
    simp [AdminCommand.name]
  cases hread with
  | unread h hrefused =>
    obtain ⟨rfl, rfl⟩ := h.eq_of_commands (List.forall_mem_nil _) hsent
    exact ⟨h.count_eq (List.forall_mem_nil _), live, action, h.before, hid, hsend,
      Or.inl ⟨rfl, hrefused, _, rfl⟩⟩
  | applied h hnext =>
    obtain ⟨rfl, rfl⟩ := h.eq_of_commands hasked hsent
    exact ⟨h.count_eq hasked, live, action, h.before, hid, hsend,
      Or.inr ⟨rfl, iff_of_true rfl hnext, fun hne => absurd rfl hne⟩⟩
  | unapplied h hlive =>
    obtain ⟨rfl, rfl⟩ := h.eq_of_commands hasked hsent
    refine ⟨h.count_eq hasked, live, action, h.before, hid, hsend,
      Or.inr ⟨rfl, iff_of_false nofun fun hnext => ?_, fun _ => ⟨⟨_, rfl⟩, hlive⟩⟩⟩
    cases hlive.symm.trans hnext
    exact UInt64.lt_irrefl _ hversion

theorem read_back_decides_after_loss :
    let run := (convergeReplicaSet 27017 false "rs" lossyCandidates).run.run lossySite
    let next : ReplicaConfig :=
      { id := "rs", version := 5, members := [⟨3, "a:27017"⟩, ⟨8, "b:27017"⟩] }
    let initial := ReplicaConfig.initial "rs" [⟨0, "a:27017"⟩, ⟨1, "b:27017"⟩]
    lossySite.cluster.Honest ∧ lossySite.cluster.Drops "replSetReconfig" ∧
      run.2.cluster.commands = [.initiate initial, .getConfig "rs", .hello, .hello] ++
        .reconfig next :: [.getConfig "rs"] ∧
      run.2.cluster.count "replSetReconfig" = 1 ∧
      ∃ action, run.1 = .ok (.configCurrent 5 action) ∧ run.2.cluster.replicaSet = some next := by
  intro run next initial
  have hdrops : lossySite.cluster.Drops "replSetReconfig" := Or.inr rfl
  have hends : run.2.cluster.commands = [.initiate initial, .getConfig "rs", .hello, .hello] ++
      .reconfig next :: [.getConfig "rs"] ∧ run.2.cluster.replicaSet = some next := by
    simp only [run, convergeReplicaSet, DesiredMembers.ofCandidates, sorted_lossyCandidates,
      Step.converge, Step.adjust, DesiredMembers.compare, Step.exchange, Step.reconfigure,
      Step.verify, Step.readBack, ReplicaConfig.reflects, sameMembers_eq_isPerm]
    decide +kernel
  obtain ⟨hcount, live, action, -, -, -, hread⟩ :=
    @read_back_decides lossySite run.2 27017 false "rs" lossyCandidates run.1 next
      [.initiate initial, .getConfig "rs", .hello, .hello] [.getConfig "rs"]
      honest_lossySite hdrops rfl hends.1
  rcases hread with ⟨hnil, -⟩ | ⟨-, hcurrent, -⟩
  · cases hnil
  · exact ⟨honest_lossySite, hdrops, hends.1, hcount, action, hcurrent.2 hends.2, hends.2⟩

end ClusterConvergence
