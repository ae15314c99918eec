import ClusterConvergence.Proofs.Cluster.Probe
import ClusterConvergence.Proofs.ReplicaSet.Step

/-!
# What a convergence says to the cluster

A convergence talks to the cluster in a fixed order.  It asks the local daemon to initiate the
replica set; if that was done before, it reads the live configuration; it looks for the primary,
sends the successor, and reads the live configuration again if the connection was lost meanwhile.  It may
break off anywhere, and it never goes back.  The transcript of a convergence is therefore of one of
few shapes: `Converging`.  It is empty only where there is nobody to put into the replica set or
nobody to talk to: `Mute`.

Nothing is assumed of the faults, and the answers may be forged.  Main statement:
`changes_at_most_once` says that a convergence tries to initiate the replica set and to replace its
configuration at most once each, and what it must have been told before it sends a successor.
-/

namespace ClusterConvergence

open Activity

/-! ## The shapes of a transcript -/

/-- What is said to send a successor; after a lost connection the live configuration is read. -/
inductive Sending (next : ReplicaConfig) : List Exchange → Prop where
  | answered (answer : Except Failure Reply) : Sending next [⟨.reconfig next, answer⟩]
  | readBack (lost : Failure) (answer : Except Failure Reply) :
    Sending next [⟨.reconfig next, .error lost⟩, ⟨.getConfig next.id, answer⟩]

/-- What is said about a live configuration.  The successor is the one that it calls for. -/
inductive Adjusting (desired : DesiredMembers) (live : ReplicaConfig) : List Exchange → Prop where
  /-- There is nothing to send, or no session to send it over. -/
  | searched {hellos : List Exchange} (hhello : ∀ e ∈ hellos, e.command = .hello) :
    Adjusting desired live hellos
  | sent {hellos sending : List Exchange} {next : ReplicaConfig} {action : ReplicaSetAction}
    (hhello : ∀ e ∈ hellos, e.command = .hello)
    (hsend : desired.remedy live = .ok (some (next, action))) (hsending : Sending next sending) :
    Adjusting desired live (hellos ++ sending)

/-- What is said in a convergence; nothing at all only for one of the reasons `mute`. -/
inductive Converging (mute : Prop) (name : String) (desired : DesiredMembers) :
    List Exchange → Prop where
  | silent (h : mute) : Converging mute name desired []
  | initiating (answer : Except Failure Reply) :
    Converging mute name desired [⟨.initiate (.initial name desired.byHost), answer⟩]
  | reading {refusal : Reply} (hrefusal : refusal.reports Reply.alreadyInitialized = true)
    (answer : Except Failure Reply) :
    Converging mute name desired
      [⟨.initiate (.initial name desired.byHost), .ok refusal⟩, ⟨.getConfig name, answer⟩]
  | adjusting {refusal told : Reply} {live : ReplicaConfig} {rest : List Exchange}
    (hrefusal : refusal.reports Reply.alreadyInitialized = true)
    (htold : Step.Tells told name live) (hrest : Adjusting desired live rest) :
    Converging mute name desired
      (⟨.initiate (.initial name desired.byHost), .ok refusal⟩ :: ⟨.getConfig name, .ok told⟩ ::
        rest)

/-! ## The steps of a convergence keep to the shapes -/

namespace Step

variable {cluster start : Cluster} {session : Session} {name : String} {port : UInt16}
  {desired : DesiredMembers} {live next : ReplicaConfig} {action : ReplicaSetAction}
  {said : List Exchange} {mute : Prop}

/-- A successor that was sent over a session leaves at most one more thing to say. -/
theorem submit_said (hsaid : Dialogue start said cluster)
    (hhello : ∀ e ∈ said, e.command = .hello)
    (hsend : desired.remedy live = .ok (some (next, action))) :
    Ensures cluster (submit session next action)
      (fun result c =>
        match result with
        | .ok _ => Said start (Adjusting desired live) c
        | .error lost => Dialogue start (said ++ [⟨.reconfig next, .error lost⟩]) c)
      fun _ c => Said start (Adjusting desired live) c := by
  have hsent : ∀ answer, (cluster.run session (.reconfig next)).1 = answer →
      Said start (Adjusting desired live) (cluster.run session (.reconfig next)).2 :=
    fun answer hanswer => ⟨_, hsaid.sent hanswer, .sent hhello hsend (.answered answer)⟩
  refine ensures_submit ?_ ?_ ?_ ?_
  · exact fun reply hreply _ => hsent _ hreply
  · exact fun reply hreply _ => hsent _ hreply
  · exact fun failure hlost _ => hsent _ hlost
  · exact fun failure hlost _ => hsaid.sent hlost

/-- After a lost connection the live configuration is read, if a session can be opened. -/
theorem verify_said {lost : Failure}
    (hsaid : Dialogue start (said ++ [⟨.reconfig next, .error lost⟩]) cluster)
    (hhello : ∀ e ∈ said, e.command = .hello)
    (hsend : desired.remedy live = .ok (some (next, action))) :
    Ensures cluster (verify port next action lost)
      (fun _ c => Said start (Adjusting desired live) c)
      fun _ c => Said start (Adjusting desired live) c := by
  refine ensures_verify (Yields.openSession ?_)
  have hopened := hsaid.opened (addressOf "localhost" port)
  split
  · next session _ =>
    have hread : Said start (Adjusting desired live)
        ((cluster.openSession (addressOf "localhost" port)).2.run session
          (.getConfig next.id)).2.release := by
      refine ⟨_, (hopened.sent rfl).released, ?_⟩
      rw [List.append_assoc]
      exact .sent hhello hsend (.readBack lost _)
    exact ensures_readBack (fun _ _ _ _ _ _ => hread) fun _ _ => hread
  · exact fun _ => ⟨_, hopened, .sent hhello hsend (.answered _)⟩

theorem reconfigure_said (hsend : desired.remedy live = .ok (some (next, action))) :
    Ensures cluster (reconfigure port live next action)
      (fun _ c => Said cluster (Adjusting desired live) c)
      fun _ c => Said cluster (Adjusting desired live) c := by
  have hnext := (DesiredMembers.isSuccessorOf_of_send hsend).2.2
  refine ensures_reconfigure hnext (ensures_openAt ((yields_connectMembers _).mono ?_))
  rintro (failure | session) c ⟨hprobed, -⟩
  · obtain ⟨hellos, hdialogue, hhello⟩ := hprobed.dialogue
    exact ⟨hellos, hdialogue, .searched hhello⟩
  · obtain ⟨hellos, hdialogue, hhello⟩ := hprobed.dialogue
    refine (submit_said hdialogue hhello hsend).mono ?_ ?_
    · rintro (lost | outcome) c hsaid
      · exact verify_said hsaid.released hhello hsend
      · exact hsaid.released
    · exact fun _ _ hsaid => hsaid.released

/-- Whatever becomes of a live configuration, only its remedy is sent. -/
theorem adjust_said :
    Ensures cluster (adjust port name desired live)
      (fun _ c => Said cluster (Adjusting desired live) c)
      fun _ c => Said cluster (Adjusting desired live) c := by
  have hsilent : Said cluster (Adjusting desired live) cluster :=
    ⟨[], .nil cluster, .searched (List.forall_mem_nil _)⟩
  refine ensures_adjust ?_ ?_ ?_
  · exact fun _ => hsilent
  · exact fun next action hsend => reconfigure_said hsend
  · exact fun _ _ => hsilent

/-- Before the live configuration is known, one command is sent, or two. -/
theorem initiateOrFetch_said (mute : Prop) (hstart : Dialogue start [] cluster) :
    Ensures cluster (initiateOrFetch session name desired.byHost)
      (fun found c =>
        match found with
        | none => Said start (Converging mute name desired) c
        | some live => ∃ refusal told : Reply,
          refusal.reports Reply.alreadyInitialized = true ∧ Tells told name live ∧
          Dialogue start [⟨.initiate (.initial name desired.byHost), .ok refusal⟩,
            ⟨.getConfig name, .ok told⟩] c)
      fun _ c => Said start (Converging mute name desired) c := by
  refine ensures_initiateOrFetch ?_ ?_ ?_ ?_
  · exact fun reply hreply _ => ⟨_, hstart.sent hreply, .initiating (.ok reply)⟩
  · intro refusal hrun hrefusal
    have hasked := hstart.sent hrun
    refine ensures_fetch ?_ ?_ ?_
    · exact fun told live htold htells => ⟨refusal, told, hrefusal, htells, hasked.sent htold⟩
    · exact fun reply hreply _ _ => ⟨_, hasked.sent hreply, .reading hrefusal (.ok reply)⟩
    · exact fun failure hlost => ⟨_, hasked.sent hlost, .reading hrefusal (.error failure)⟩
  · exact fun reply hreply _ _ => ⟨_, hstart.sent hreply, .initiating (.ok reply)⟩
  · exact fun failure hlost => ⟨_, hstart.sent hlost, .initiating (.error failure)⟩

/-- A convergence is mute if there is no session at the local daemon. -/
theorem converge_said
    (hmute : ∀ failure, (cluster.openSession (addressOf "localhost" port)).1 = .error failure →
      mute) :
    Ensures cluster (converge port name desired)
      (fun _ c => Said cluster (Converging mute name desired) c)
      fun _ c => Said cluster (Converging mute name desired) c := by
  refine ensures_converge (ensures_openAt (Yields.openSession ?_))
  have hopened := (Dialogue.nil cluster).opened (addressOf "localhost" port)
  split
  · refine (initiateOrFetch_said mute hopened).mono ?_ ?_
    · rintro (- | live) c hfound
      · exact hfound.released
      · obtain ⟨refusal, told, hrefusal, htells, hsaid⟩ := hfound
        -- what is said about the live configuration comes behind the first two commands
        have hbehind : ∀ {c' : Cluster}, Said c.release (Adjusting desired live) c' →
            Said cluster (Converging mute name desired) c' := by
          rintro c' ⟨rest, hrest, hshape⟩
          exact ⟨_, hsaid.released.trans hrest, .adjusting hrefusal htells hshape⟩
        exact adjust_said.mono (fun _ _ => hbehind) fun _ _ => hbehind
    · exact fun _ _ hsaid => hsaid.released
  · next failure hfailure => exact ⟨[], hopened, .silent (hmute failure hfailure)⟩

end Step

/-- Why a convergence says nothing: there is nobody to put into the replica set, or no session at
the local daemon. -/
def Mute (cluster : Cluster) (port : UInt16) (candidates : List Node) : Prop :=
  candidates = [] ∨
    ∃ failure, (cluster.openSession (addressOf "localhost" port)).1 = .error failure

theorem convergeReplicaSet_said (cluster : Cluster) (port : UInt16) (solo : Bool) (name : String)
    (candidates : List Node) :
    let shape := Converging (Mute cluster port candidates) name (.ofCandidates candidates)
    Ensures cluster (convergeReplicaSet port solo name candidates)
      (fun _ c => Said cluster shape c) fun _ c => Said cluster shape c := by
  intro shape
  rcases candidates with - | ⟨node, nodes⟩
  · have hsilent : Said cluster shape cluster := ⟨[], .nil cluster, .silent (Or.inl rfl)⟩
    exact ensures_convergeReplicaSet_nil (fun _ => hsilent) fun _ => hsilent
  · have hmute : ∀ failure,
        (cluster.openSession (addressOf "localhost" port)).1 = .error failure →
        Mute cluster port (node :: nodes) :=
      fun failure hfailure => Or.inr ⟨failure, hfailure⟩
    refine ensures_convergeReplicaSet (List.cons_ne_nil _ _) ((Step.converge_said hmute).mono ?_ ?_)
    · exact fun _ _ hsaid => hsaid
    · rintro (outcome | -) c hsaid
      · exact hsaid
      · exact hsaid

/-! ## Counting what is sent -/

namespace Adjusting

variable {desired : DesiredMembers} {live : ReplicaConfig} {exchanges : List Exchange}

theorem countP_initiate (h : Adjusting desired live exchanges) :
    (exchanges.map Exchange.command).countP (·.name == "replSetInitiate") = 0 := by
  cases h with
  | searched hhello => exact countP_hellos hhello (by decide)
  | sent hhello _ hsending =>
    rw [List.map_append, List.countP_append, countP_hellos hhello (by decide), Nat.zero_add]
    cases hsending <;> simp [AdminCommand.name]

theorem countP_reconfig (h : Adjusting desired live exchanges) :
    (exchanges.map Exchange.command).countP (·.name == "replSetReconfig") ≤ 1 := by
  cases h with
  | searched hhello =>
    rw [countP_hellos hhello (by decide)]
    exact Nat.zero_le 1
  | sent hhello _ hsending =>
    rw [List.map_append, List.countP_append, countP_hellos hhello (by decide), Nat.zero_add]
    cases hsending <;> simp [AdminCommand.name]

/-- Whatever is sent is what the live configuration calls for. -/
theorem exists_remedy (h : Adjusting desired live exchanges) {next : ReplicaConfig}
    (hmem : .reconfig next ∈ exchanges.map Exchange.command) :
    ∃ action, desired.remedy live = .ok (some (next, action)) := by
  have hnone : ∀ {hellos : List Exchange}, (∀ e ∈ hellos, e.command = .hello) →
      .reconfig next ∉ hellos.map Exchange.command := by
    intro hellos hhello hmem
    obtain ⟨e, he, heq⟩ := List.mem_map.1 hmem
    cases heq.symm.trans (hhello e he)
  cases h with
  | searched hhello => exact absurd hmem (hnone hhello)
  | @sent hellos sending sentNext action hhello hsend hsending =>
    -- it stands behind the hellos, and there only one command can be a successor
    rw [List.map_append, List.mem_append] at hmem
    have hlast : AdminCommand.reconfig next ∈ sending.map Exchange.command :=
      hmem.resolve_left (hnone hhello)
    have heq : next = sentNext := by
      cases hsending <;> simpa using hlast
    exact ⟨action, heq ▸ hsend⟩

end Adjusting

namespace Converging

variable {mute : Prop} {name : String} {desired : DesiredMembers} {exchanges : List Exchange}

theorem countP_initiate (h : Converging mute name desired exchanges) :
    (exchanges.map Exchange.command).countP (·.name == "replSetInitiate") ≤ 1 := by
  cases h with
  | silent => exact Nat.zero_le 1
  | initiating | reading => simp [AdminCommand.name]
  | adjusting _ _ hrest =>
    rw [List.map_cons, List.map_cons, List.countP_cons, List.countP_cons, hrest.countP_initiate]
    simp [AdminCommand.name]

theorem countP_reconfig (h : Converging mute name desired exchanges) :
    (exchanges.map Exchange.command).countP (·.name == "replSetReconfig") ≤ 1 := by
  cases h with
  | silent => exact Nat.zero_le 1
  | initiating | reading => simp [AdminCommand.name]
  | adjusting _ _ hrest =>
    have hone := hrest.countP_reconfig
    rw [List.map_cons, List.map_cons, List.countP_cons, List.countP_cons]
    simpa [AdminCommand.name] using hone

/-- The replica set is initiated with the desired members. -/
theorem eq_initial (h : Converging mute name desired exchanges) {config : ReplicaConfig}
    (hmem : .initiate config ∈ exchanges.map Exchange.command) :
    config = .initial name desired.byHost := by
  cases h with
  | silent => cases hmem
  | initiating | reading => simpa using hmem
  | adjusting _ _ hrest =>
    simp only [List.map_cons, List.mem_cons, AdminCommand.initiate.injEq, reduceCtorEq,
      false_or] at hmem
    refine hmem.resolve_right fun hlater => ?_
    have hnone := List.countP_eq_zero.1 hrest.countP_initiate _ hlater
    exact hnone rfl

/-- Whoever can talk asks for the replica set to be initiated. -/
theorem mem_initiate (h : Converging mute name desired exchanges) (htalks : ¬ mute) :
    .initiate (.initial name desired.byHost) ∈ exchanges.map Exchange.command := by
  cases h with
  | silent hmute => exact absurd hmute htalks
  | initiating | reading | adjusting => exact List.mem_cons_self

/-- Before a successor is sent, the replica set was found initiated, and a live configuration of its
name was told that calls for this successor. -/
theorem before_reconfig (h : Converging mute name desired exchanges) {next : ReplicaConfig}
    (hmem : .reconfig next ∈ exchanges.map Exchange.command) :
    ∃ refusal told live action rest,
      exchanges = ⟨.initiate (.initial name desired.byHost), .ok refusal⟩ ::
        ⟨.getConfig name, .ok told⟩ :: rest ∧
      .reconfig next ∈ rest.map Exchange.command ∧
      refusal.reports Reply.alreadyInitialized = true ∧ Step.Tells told name live ∧
      desired.remedy live = .ok (some (next, action)) := by
  cases h with
  | silent => cases hmem
  | initiating | reading => simp at hmem
  | @adjusting refusal told live rest hrefusal htold hrest =>
    have hlater : .reconfig next ∈ rest.map Exchange.command := by simpa using hmem
    obtain ⟨action, hsend⟩ := hrest.exists_remedy hlater
    exact ⟨refusal, told, live, action, rest, rfl, hlater, hrefusal, htold, hsend⟩

end Converging

/-- A convergence appends commands to the log of the cluster: at most one that initiates the replica
set, and at most one that replaces its configuration.  The latter comes after the answer that the
replica set is initiated, and after an answer that tells a configuration of the right name; the
version that it asks for is the next one.  Afterwards the live configuration is the one from before,
or one of the two that were sent.  All this holds whatever faults hit the commands, whether or not
the answers are true, and however the convergence ends. -/
theorem changes_at_most_once (site : Site) (port : UInt16) (solo : Bool) (name : String)
    (candidates : List Node) :
    let after := ((convergeReplicaSet port solo name candidates).run.run site).2.cluster
    ∃ exchanges, Dialogue site.cluster exchanges after ∧
      let sent := exchanges.map Exchange.command
      after.commands = site.cluster.commands ++ sent ∧
      sent.countP (·.name == "replSetInitiate") ≤ 1 ∧
      sent.countP (·.name == "replSetReconfig") ≤ 1 ∧
      (∀ next, .reconfig next ∈ sent →
        ∃ initial refusal told live rest,
          exchanges = ⟨.initiate initial, .ok refusal⟩ :: ⟨.getConfig name, .ok told⟩ :: rest ∧
          .reconfig next ∈ rest.map Exchange.command ∧
          refusal.reports Reply.alreadyInitialized = true ∧
          told.isOk = true ∧ told.config = some live ∧ live.id = name ∧
          next.id = name ∧ next.version.toNat = live.version.toNat + 1) ∧
      (after.replicaSet = site.cluster.replicaSet ∨
        ∃ config, (.initiate config ∈ sent ∨ .reconfig config ∈ sent) ∧
          after.replicaSet = some config) := by
  intro after
  obtain ⟨exchanges, hdialogue, hshape⟩ :=
    Ensures.leaves (convergeReplicaSet_said site.cluster port solo name candidates)
  refine ⟨exchanges, hdialogue, hdialogue.commands, hshape.countP_initiate, hshape.countP_reconfig,
    ?_, hdialogue.replicaSet_cases⟩
  intro next hnext
  obtain ⟨refusal, told, live, action, rest, heq, hlater, hrefusal, ⟨hok, hconfig, hid⟩, hsend⟩ :=
    hshape.before_reconfig hnext
  obtain ⟨hnextId, hversion, -⟩ := DesiredMembers.isSuccessorOf_of_send hsend
  exact ⟨_, refusal, told, live, rest, heq, hlater, hrefusal, hok, hconfig, hid,
    hnextId.trans hid, hversion⟩

end ClusterConvergence
