import ClusterConvergence.Proofs.Cluster.Fault

/-!
# What a command does to a cluster

A command is received, and then a fault may hit it.  `Cluster.run_cases` is the whole of what can
happen: the command is answered, a forged reply comes back, or the connection fails, before or after
the command took effect.  The commands about the replica set are described in the same way.

Everything else in this file follows from these descriptions: which parts of a cluster a command
does not touch, and when the live configuration is replaced.
-/

namespace ClusterConvergence

namespace Reply

@[simp] theorem isOk_success : success.isOk = true := by decide

@[simp] theorem isOk_withConfig (config : Option ReplicaConfig) :
    ({ success with config := config } : Reply).isOk = true := isOk_success

@[simp] theorem isOk_failure (errmsg : String) (code : Option Int32) :
    (failure errmsg code).isOk = false := by
  show decide ((1.0 : Float) ≤ 0.0) = false
  decide

theorem reports_alreadyInitialized (code : Option Int32) :
    (failure alreadyInitialized code).reports alreadyInitialized = true := by
  rw [reports, isOk_failure]
  show occursIn alreadyInitialized.toList (alreadyInitialized.toList.map Char.toLower) = true
  decide

end Reply

/-! ## Faults -/

namespace Fault

/-- Whether a command that this fault hits has its effect all the same. -/
def takesEffect : Fault → Bool
  | .timeoutAfterApply => true
  | .dropAfterApply => true
  | _ => false

/-- The failure of a command that this fault hits; a forged reply is no failure. -/
def failure? (address : String) (command : AdminCommand) : Fault → Option Failure
  | .timeout => some (.timedOut address command)
  | .timeoutAfterApply => some (.timedOut address command)
  | .drop => some (.dropped address command)
  | .dropAfterApply => some (.dropped address command)
  | .reply _ => none

/-- What comes back from a command that this fault hits. -/
def answer (address : String) (command : AdminCommand) : Fault → Except Failure Reply
  | .timeout | .timeoutAfterApply => .error (.timedOut address command)
  | .drop | .dropAfterApply => .error (.dropped address command)
  | .reply forged => .ok forged

end Fault

namespace Cluster

/-- The fault that hits the next command of this name. -/
def pendingFault (cluster : Cluster) (command : AdminCommand) : Option Fault :=
  (takeFault command.name cluster.faults).1

/-- The cluster that has received a command and not acted on it. -/
def received (cluster : Cluster) (command : AdminCommand) : Cluster :=
  { cluster with
    commands := cluster.commands ++ [command]
    faults := (takeFault command.name cluster.faults).2 }

/-- Whether some command of this name may get a forged reply. -/
def Forges (cluster : Cluster) (name : String) : Prop :=
  ∃ reply, (name, Fault.reply reply) ∈ cluster.faults

variable {cluster : Cluster} {session : Session} {command : AdminCommand}

/-- Everything that can happen to a command. -/
theorem run_cases (cluster : Cluster) (session : Session) (command : AdminCommand) :
    (cluster.pendingFault command = none ∧
      cluster.run session command =
        (.ok ((cluster.received command).apply session.address command).1,
          ((cluster.received command).apply session.address command).2)) ∨
    (∃ reply, cluster.pendingFault command = some (.reply reply) ∧
      cluster.run session command = (.ok reply, cluster.received command)) ∨
    (∃ fault failure, cluster.pendingFault command = some fault ∧
      fault.failure? session.address command = some failure ∧
      cluster.run session command = (.error failure,
        if fault.takesEffect then ((cluster.received command).apply session.address command).2
        else cluster.received command)) := by
  have hreceive : cluster.receive command =
      (cluster.pendingFault command, cluster.received command) := rfl
  rw [run, hreceive]
  rcases hfault : cluster.pendingFault command with - | fault
  · exact Or.inl ⟨rfl, rfl⟩
  · cases fault with
    | reply reply => exact Or.inr (Or.inl ⟨reply, rfl, rfl⟩)
    | timeout => exact Or.inr (Or.inr ⟨_, _, rfl, rfl, rfl⟩)
    | timeoutAfterApply => exact Or.inr (Or.inr ⟨_, _, rfl, rfl, rfl⟩)
    | drop => exact Or.inr (Or.inr ⟨_, _, rfl, rfl, rfl⟩)
    | dropAfterApply => exact Or.inr (Or.inr ⟨_, _, rfl, rfl, rfl⟩)

/-- A command is answered by the fault that hits it, and by the cluster if there is none. -/
theorem run_fst (cluster : Cluster) (session : Session) (command : AdminCommand) :
    (cluster.run session command).1 =
      (cluster.pendingFault command).elim
        (.ok ((cluster.received command).apply session.address command).1)
        (Fault.answer session.address command) := by
  rcases cluster.run_cases session command with ⟨hfault, hrun⟩ | ⟨reply, hfault, hrun⟩ |
    ⟨fault, failure, hfault, hfailure, hrun⟩ <;> rw [hfault, hrun]
  · rfl
  · rfl
  · cases fault <;> cases hfailure <;> rfl

theorem pendingFault_eq_none_iff :
    cluster.pendingFault command = none ↔ ∀ fault, (command.name, fault) ∉ cluster.faults :=
  takeFault_eq_none_iff

/-- Where faults are only taken away, no fault comes to hit a command. -/
theorem unfaulted_of_sublist {after : Cluster} (hsub : after.faults.Sublist cluster.faults)
    (h : cluster.pendingFault command = none) : after.pendingFault command = none :=
  pendingFault_eq_none_iff.2 fun fault hmem => pendingFault_eq_none_iff.1 h fault (hsub.subset hmem)

theorem pendingFault_of_faults_nil (h : cluster.faults = []) :
    cluster.pendingFault command = none := by
  rw [pendingFault, h]
  rfl

/-- A command that no fault hits is answered. -/
theorem run_of_unfaulted (h : cluster.pendingFault command = none) :
    cluster.run session command =
      (.ok ((cluster.received command).apply session.address command).1,
        ((cluster.received command).apply session.address command).2) := by
  rcases cluster.run_cases session command with ⟨-, hrun⟩ | ⟨reply, hsome, -⟩ |
    ⟨fault, failure, hsome, -⟩
  · exact hrun
  · cases hsome.symm.trans h
  · cases hsome.symm.trans h

/-- Where replies are not forged, a command that is answered was hit by no fault. -/
theorem unfaulted_of_answered {reply : Reply} (hforges : ¬ cluster.Forges command.name)
    (hrun : (cluster.run session command).1 = .ok reply) :
    cluster.pendingFault command = none := by
  rcases cluster.run_cases session command with ⟨hfault, -⟩ | ⟨reply', hfault, -⟩ |
    ⟨fault, failure, -, -, hc⟩
  · exact hfault
  · exact absurd ⟨reply', mem_of_takeFault hfault⟩ hforges
  · rw [hc] at hrun
    cases hrun

theorem run_fst_of_failure {fault : Fault} {failure : Failure}
    (hfault : cluster.pendingFault command = some fault)
    (hfailure : fault.failure? session.address command = some failure) :
    (cluster.run session command).1 = .error failure := by
  rw [run_fst, hfault]
  cases fault <;> cases hfailure <;> rfl

/-- The connection is lost over a command exactly if one of two faults hits it: the command had no
effect before, or it had. -/
theorem exists_lost_iff :
    (∃ failure, (cluster.run session command).1 = .error failure ∧ failure.isTimeout = false) ↔
      cluster.pendingFault command = some .drop ∨
        cluster.pendingFault command = some .dropAfterApply := by
  rcases cluster.run_cases session command with ⟨hfault, hc⟩ | ⟨reply, hfault, hc⟩ |
    ⟨fault, failure, hfault, hfailure, hc⟩ <;> rw [hfault, hc]
  · simp
  · simp
  · cases fault <;> cases hfailure <;> simp [Failure.isTimeout, Failure.timedOut, Failure.dropped]

/-! ## The live configuration -/

/-- A replica set is initiated when there is no live configuration and the new one has no defect. -/
theorem initiate_cases (cluster : Cluster) (config : ReplicaConfig) :
    (cluster.replicaSet = none ∧ config.defect? = none ∧
      cluster.initiate config = (.success, cluster.setReplicaSet config)) ∨
    (∃ live, cluster.replicaSet = some live ∧
      cluster.initiate config = (.failure Reply.alreadyInitialized (some 23), cluster)) ∨
    (cluster.replicaSet = none ∧ ∃ reason, config.defect? = some reason ∧
      cluster.initiate config = (.failure reason (some 93), cluster)) := by
  rw [initiate]
  rcases hlive : cluster.replicaSet with - | live
  · rcases hdefect : config.defect? with - | reason
    · exact Or.inl ⟨rfl, rfl, rfl⟩
    · exact Or.inr (Or.inr ⟨rfl, reason, rfl, rfl⟩)
  · exact Or.inr (Or.inl ⟨live, rfl, rfl⟩)

/-- The live configuration is told exactly to those who know its name. -/
theorem getConfig_cases (cluster : Cluster) (name : String) :
    (∃ live, cluster.replicaSet = some live ∧ live.id = name ∧
      cluster.getConfig name = { Reply.success with config := some live }) ∨
    ((∀ live, cluster.replicaSet = some live → live.id ≠ name) ∧
      (cluster.getConfig name).isOk = false) := by
  rw [getConfig]
  rcases hlive : cluster.replicaSet with - | live
  · exact Or.inr ⟨by rintro _ ⟨⟩, Reply.isOk_failure _ _⟩
  · by_cases hname : live.id = name
    · exact Or.inl ⟨live, rfl, hname, if_pos hname⟩
    · refine Or.inr ⟨?_, ?_⟩
      · rintro _ ⟨⟩
        exact hname
      · simp only [if_neg hname, Reply.isOk_failure]

/-- The live configuration is replaced by one of the same replica set that has a higher version and
no defect, and by no other. -/
theorem reconfig_cases (cluster : Cluster) (config : ReplicaConfig) :
    (∃ live, cluster.replicaSet = some live ∧ config.id = live.id ∧
      live.version < config.version ∧ config.defect? = none ∧
      cluster.reconfig config = (.success, cluster.setReplicaSet config)) ∨
    ((cluster.reconfig config).1.isOk = false ∧ (cluster.reconfig config).2 = cluster) := by
  rw [reconfig]
  rcases hlive : cluster.replicaSet with - | live
  · exact Or.inr ⟨Reply.isOk_failure _ _, rfl⟩
  · by_cases hid : config.id = live.id
    · by_cases hversion : config.version ≤ live.version
      · exact Or.inr (by simp [hid, hversion])
      · rcases hdefect : config.defect? with - | reason
        · refine Or.inl ⟨live, rfl, hid, UInt64.not_le.1 hversion, rfl, ?_⟩
          simp [hid, hversion]
        · exact Or.inr (by simp [hid, hversion])
    · exact Or.inr (by simp [hid])

/-! ## What a command leaves as it is -/

/-- A command acts on the replica set and on the routing layer, and on nothing around them. -/
theorem apply_frame (cluster : Cluster) (address : String) (command : AdminCommand) :
    ∃ replicaSet shards databases collections, (cluster.apply address command).2 =
      { cluster with
        replicaSet := replicaSet, shards := shards, databases := databases
        collections := collections } := by
  cases command with
  | hello => exact ⟨_, _, _, _, rfl⟩
  | getConfig => exact ⟨_, _, _, _, rfl⟩
  | initiate config =>
    rcases cluster.initiate_cases config with ⟨-, -, h⟩ | ⟨_, -, h⟩ | ⟨-, _, -, h⟩ <;>
      exact ⟨_, _, _, _, congrArg Prod.snd h⟩
  | reconfig config =>
    rcases cluster.reconfig_cases config with ⟨_, -, -, -, -, h⟩ | ⟨-, h⟩
    · exact ⟨_, _, _, _, congrArg Prod.snd h⟩
    · exact ⟨_, _, _, _, h⟩
  | addShard shard =>
    rw [apply, addShard]
    split <;> exact ⟨_, _, _, _, rfl⟩
  | enableSharding database =>
    rw [apply, enableSharding]
    split <;> exact ⟨_, _, _, _, rfl⟩
  | shardCollection ns key =>
    simp only [apply, shardCollection]
    split
    · exact ⟨_, _, _, _, rfl⟩
    · split <;> exact ⟨_, _, _, _, rfl⟩

/-- A command that is refused changes nothing. -/
theorem apply_of_refused {address : String}
    (h : (cluster.apply address command).1.isOk = false) :
    (cluster.apply address command).2 = cluster := by
  cases command with
  | hello => rfl
  | getConfig => rfl
  | initiate config =>
    rw [apply] at h ⊢
    rcases cluster.initiate_cases config with ⟨-, -, hc⟩ | ⟨_, -, hc⟩ | ⟨-, _, -, hc⟩
    · rw [hc] at h
      cases Reply.isOk_success.symm.trans h
    · rw [hc]
    · rw [hc]
  | reconfig config =>
    rw [apply] at h ⊢
    rcases cluster.reconfig_cases config with ⟨_, -, -, -, -, hc⟩ | ⟨-, hc⟩
    · rw [hc] at h
      cases Reply.isOk_success.symm.trans h
    · exact hc
  | addShard shard =>
    rw [apply, addShard] at h ⊢
    split at h
    · next hc => rw [if_pos hc]
    · cases Reply.isOk_success.symm.trans h
  | enableSharding database =>
    rw [apply, enableSharding] at h ⊢
    split at h
    · next hc => rw [if_pos hc]
    · cases Reply.isOk_success.symm.trans h
  | shardCollection ns key =>
    simp only [apply, shardCollection] at h ⊢
    split at h
    · next hc => rw [if_pos hc]
    · next hc =>
      rw [if_neg hc]
      split at h
      · next hc => rw [if_pos hc]
      · cases Reply.isOk_success.symm.trans h

/-- The live configuration is replaced only by the two commands that are meant to do so. -/
theorem apply_replicaSet_of_other {address : String}
    (hinitiate : ∀ config, command ≠ .initiate config)
    (hreconfig : ∀ config, command ≠ .reconfig config) :
    (cluster.apply address command).2.replicaSet = cluster.replicaSet := by
  cases command with
  | hello => rfl
  | getConfig => rfl
  | initiate config => exact absurd rfl (hinitiate config)
  | reconfig config => exact absurd rfl (hreconfig config)
  | addShard shard =>
    rw [apply, addShard]
    split <;> rfl
  | enableSharding database =>
    rw [apply, enableSharding]
    split <;> rfl
  | shardCollection ns key =>
    simp only [apply, shardCollection]
    split
    · rfl
    · split <;> rfl

/-! ## Opening a session -/

theorem openSession_of_accepts {address : String} (h : cluster.accepts address = true) :
    (cluster.openSession address).1 = .ok ⟨address⟩ := by
  rw [openSession, if_pos h]

theorem openSession_of_not_accepts {address : String} (h : cluster.accepts address = false) :
    cluster.openSession address = (.error (.refused address), cluster) := by
  rw [openSession, h]
  rfl

@[simp] theorem openSession_replicaSet (cluster : Cluster) (address : String) :
    (cluster.openSession address).2.replicaSet = cluster.replicaSet := by
  rw [openSession]
  split <;> rfl

@[simp] theorem openSession_faults (cluster : Cluster) (address : String) :
    (cluster.openSession address).2.faults = cluster.faults := by
  rw [openSession]
  split <;> rfl

@[simp] theorem openSession_commands (cluster : Cluster) (address : String) :
    (cluster.openSession address).2.commands = cluster.commands := by
  rw [openSession]
  split <;> rfl

theorem openSession_pendingFault (cluster : Cluster) (address : String) :
    (cluster.openSession address).2.pendingFault command = cluster.pendingFault command := by
  rw [pendingFault, openSession_faults]
  rfl

/-! ## Commands that are carried out -/

/-- Whether a command reaches the cluster, in spite of a fault that hits it, and is not refused. -/
def carriesOut (cluster : Cluster) (session : Session) (command : AdminCommand) : Bool :=
  (cluster.pendingFault command).all Fault.takesEffect &&
    ((cluster.received command).apply session.address command).1.isOk

theorem run_of_carriesOut (h : cluster.carriesOut session command = true) :
    (cluster.run session command).2 =
      ((cluster.received command).apply session.address command).2 := by
  rw [carriesOut, Bool.and_eq_true] at h
  rcases cluster.run_cases session command with ⟨-, hrun⟩ | ⟨reply, hfault, -⟩ |
    ⟨fault, failure, hfault, -, hrun⟩
  · rw [hrun]
  · rw [hfault] at h
    cases h.1
  · have heffect : fault.takesEffect = true := by
      rw [hfault] at h
      exact h.1
    rw [hrun, if_pos heffect]

/-- A command that is not carried out is only remembered. -/
theorem run_of_not_carriesOut (h : cluster.carriesOut session command = false) :
    (cluster.run session command).2 = cluster.received command := by
  rw [carriesOut, Bool.and_eq_false_iff] at h
  -- a command that reaches the cluster can only have been refused
  have hrefused : (cluster.pendingFault command).all Fault.takesEffect = true →
      ((cluster.received command).apply session.address command).2 =
        cluster.received command := by
    intro heffect
    rcases h with h | h
    · cases heffect.symm.trans h
    · exact apply_of_refused h
  rcases cluster.run_cases session command with ⟨hfault, hrun⟩ | ⟨reply, -, hrun⟩ |
    ⟨fault, failure, hfault, -, hrun⟩
  · rw [hrun]
    exact hrefused (by rw [hfault]; rfl)
  · rw [hrun]
  · rw [hrun]
    split
    · next heffect => exact hrefused (by rw [hfault]; exact heffect)
    · rfl

/-- Around the replica set and the routing layer, a command is remembered and takes its fault. -/
theorem run_frame (cluster : Cluster) (session : Session) (command : AdminCommand) :
    ∃ replicaSet shards databases collections, (cluster.run session command).2 =
      { cluster.received command with
        replicaSet := replicaSet, shards := shards, databases := databases
        collections := collections } := by
  cases h : cluster.carriesOut session command with
  | false => exact ⟨_, _, _, _, run_of_not_carriesOut h⟩
  | true =>
    rw [run_of_carriesOut h]
    exact apply_frame _ _ _

@[simp] theorem run_commands (cluster : Cluster) (session : Session) (command : AdminCommand) :
    (cluster.run session command).2.commands = cluster.commands ++ [command] := by
  obtain ⟨_, _, _, _, h⟩ := cluster.run_frame session command
  rw [h]
  rfl

@[simp] theorem run_faults (cluster : Cluster) (session : Session) (command : AdminCommand) :
    (cluster.run session command).2.faults = (takeFault command.name cluster.faults).2 := by
  obtain ⟨_, _, _, _, h⟩ := cluster.run_frame session command
  rw [h]
  rfl

@[simp] theorem run_unreachable (cluster : Cluster) (session : Session) (command : AdminCommand) :
    (cluster.run session command).2.unreachable = cluster.unreachable := by
  obtain ⟨_, _, _, _, h⟩ := cluster.run_frame session command
  rw [h]
  rfl

@[simp] theorem run_budget (cluster : Cluster) (session : Session) (command : AdminCommand) :
    (cluster.run session command).2.budget = cluster.budget := by
  obtain ⟨_, _, _, _, h⟩ := cluster.run_frame session command
  rw [h]
  rfl

theorem run_faults_sublist (cluster : Cluster) (session : Session) (command : AdminCommand) :
    (cluster.run session command).2.faults.Sublist cluster.faults := by
  rw [run_faults]
  exact takeFault_sublist _ _

/-- Commands never make a forged reply possible. -/
theorem Forges.of_run {name : String} (h : (cluster.run session command).2.Forges name) :
    cluster.Forges name := by
  obtain ⟨reply, h⟩ := h
  exact ⟨reply, (cluster.run_faults_sublist session command).subset h⟩

theorem run_replicaSet_of_other (hinitiate : ∀ config, command ≠ .initiate config)
    (hreconfig : ∀ config, command ≠ .reconfig config) :
    (cluster.run session command).2.replicaSet = cluster.replicaSet := by
  cases h : cluster.carriesOut session command with
  | false =>
    rw [run_of_not_carriesOut h]
    rfl
  | true =>
    rw [run_of_carriesOut h, apply_replicaSet_of_other hinitiate hreconfig]
    rfl

@[simp] theorem run_getConfig_replicaSet (cluster : Cluster) (session : Session) (name : String) :
    (cluster.run session (.getConfig name)).2.replicaSet = cluster.replicaSet :=
  run_replicaSet_of_other (fun _ => nofun) (fun _ => nofun)

theorem run_replicaSet_of_not_carriesOut (h : cluster.carriesOut session command = false) :
    (cluster.run session command).2.replicaSet = cluster.replicaSet := by
  rw [run_of_not_carriesOut h]
  rfl

/-- Where replies are not forged, a command that succeeds is carried out. -/
theorem carriesOut_of_isOk {reply : Reply} (hforges : ¬ cluster.Forges command.name)
    (hrun : (cluster.run session command).1 = .ok reply) (hok : reply.isOk = true) :
    cluster.carriesOut session command = true := by
  rcases cluster.run_cases session command with ⟨hfault, hc⟩ | ⟨reply', hfault, -⟩ |
    ⟨fault, failure, -, -, hc⟩
  · rw [hc] at hrun
    cases hrun
    rw [carriesOut, hfault, hok]
    rfl
  · exact absurd ⟨reply', mem_of_takeFault hfault⟩ hforges
  · rw [hc] at hrun
    cases hrun

/-- A command that is answered with a refusal changes nothing, even if the answer is forged. -/
theorem run_replicaSet_of_refused {reply : Reply}
    (hrun : (cluster.run session command).1 = .ok reply) (hrefused : reply.isOk = false) :
    (cluster.run session command).2.replicaSet = cluster.replicaSet := by
  rcases cluster.run_cases session command with ⟨-, hc⟩ | ⟨reply', -, hc⟩ |
    ⟨fault, failure, -, -, hc⟩
  · rw [hc] at hrun ⊢
    cases hrun
    rw [apply_of_refused hrefused]
    rfl
  · rw [hc]
    rfl
  · rw [hc] at hrun
    cases hrun

/-- A replica set is initiated where there was none, with a configuration that has no defect. -/
theorem carriesOut_initiate_iff {config : ReplicaConfig} :
    cluster.carriesOut session (.initiate config) = true ↔
      (cluster.pendingFault (.initiate config)).all Fault.takesEffect = true ∧
        cluster.replicaSet = none ∧ config.defect? = none := by
  rw [carriesOut, Bool.and_eq_true, apply]
  refine and_congr_right fun _ => ?_
  rcases (cluster.received (.initiate config)).initiate_cases config with
    ⟨hnone, hdefect, hc⟩ | ⟨live, hlive, hc⟩ | ⟨hnone, reason, hdefect, hc⟩ <;> rw [hc]
  · exact iff_of_true Reply.isOk_success ⟨hnone, hdefect⟩
  · refine iff_of_false (by simp) fun h => ?_
    cases hlive.symm.trans h.1
  · refine iff_of_false (by simp) fun h => ?_
    cases hdefect.symm.trans h.2

/-- A replica set that is initiated was not there before. -/
theorem of_carriesOut_initiate {config : ReplicaConfig}
    (h : cluster.carriesOut session (.initiate config) = true) :
    cluster.replicaSet = none ∧
      (cluster.run session (.initiate config)).2.replicaSet = some config := by
  have hok := (Bool.and_eq_true _ _ ▸ h : _ ∧ _).2
  rw [run_of_carriesOut h]
  rw [apply] at hok ⊢
  rcases (cluster.received (.initiate config)).initiate_cases config with
    ⟨hlive, -, hc⟩ | ⟨_, -, hc⟩ | ⟨-, _, -, hc⟩
  · rw [hc]
    exact ⟨hlive, rfl⟩
  · rw [hc, Reply.isOk_failure] at hok
    cases hok
  · rw [hc, Reply.isOk_failure] at hok
    cases hok

/-- A successor that is carried out takes the place of a live configuration with a lower version. -/
theorem of_carriesOut_reconfig {config : ReplicaConfig}
    (h : cluster.carriesOut session (.reconfig config) = true) :
    (∃ live, cluster.replicaSet = some live ∧ config.id = live.id ∧
      live.version < config.version ∧ config.defect? = none) ∧
      (cluster.run session (.reconfig config)).2.replicaSet = some config := by
  have hok := (Bool.and_eq_true _ _ ▸ h : _ ∧ _).2
  rw [run_of_carriesOut h]
  rw [apply] at hok ⊢
  rcases (cluster.received (.reconfig config)).reconfig_cases config with
    ⟨live, hlive, hid, hversion, hdefect, hc⟩ | ⟨hrefused, -⟩
  · rw [hc]
    exact ⟨⟨live, hlive, hid, hversion, hdefect⟩, rfl⟩
  · cases hrefused.symm.trans hok

/-- All that a command can do to the live configuration. -/
theorem run_replicaSet_cases (cluster : Cluster) (session : Session) (command : AdminCommand) :
    (cluster.run session command).2.replicaSet = cluster.replicaSet ∨
    (∃ config, command = .initiate config ∧ cluster.replicaSet = none ∧
      (cluster.run session command).2.replicaSet = some config) ∨
    (∃ config live, command = .reconfig config ∧ cluster.replicaSet = some live ∧
      live.version < config.version ∧
      (cluster.run session command).2.replicaSet = some config) := by
  cases hcarried : cluster.carriesOut session command with
  | false => exact Or.inl (run_replicaSet_of_not_carriesOut hcarried)
  | true =>
    cases command with
    | initiate config =>
      obtain ⟨hnone, hnext⟩ := of_carriesOut_initiate hcarried
      exact Or.inr (Or.inl ⟨config, rfl, hnone, hnext⟩)
    | reconfig config =>
      obtain ⟨⟨live, hlive, -, hversion, -⟩, hnext⟩ := of_carriesOut_reconfig hcarried
      exact Or.inr (Or.inr ⟨config, live, rfl, hlive, hversion, hnext⟩)
    | _ => exact Or.inl (run_replicaSet_of_other nofun nofun)

/-- Where there is a live configuration, a replica set is not initiated again, and the reply says so. -/
theorem run_initiate_of_live {live config : ReplicaConfig}
    (hfault : cluster.pendingFault (.initiate config) = none)
    (hlive : cluster.replicaSet = some live) :
    cluster.run session (.initiate config) =
      (.ok (.failure Reply.alreadyInitialized (some 23)), cluster.received (.initiate config)) := by
  rw [run_of_unfaulted hfault, apply]
  rcases (cluster.received (.initiate config)).initiate_cases config with
    ⟨hnone, -, -⟩ | ⟨_, -, hc⟩ | ⟨hnone, -⟩
  · cases hnone.symm.trans hlive
  · rw [hc]
  · cases hnone.symm.trans hlive

/-- Who asks for the live configuration by its name is told. -/
theorem run_getConfig_of_live {name : String} {live : ReplicaConfig}
    (hfault : cluster.pendingFault (.getConfig name) = none)
    (hlive : cluster.replicaSet = some live) (hid : live.id = name) :
    cluster.run session (.getConfig name) =
      (.ok { Reply.success with config := some live }, cluster.received (.getConfig name)) := by
  rw [run_of_unfaulted hfault, apply]
  rcases (cluster.received (.getConfig name)).getConfig_cases name with
    ⟨found, hfound, -, hc⟩ | ⟨hnone, -⟩
  · cases hlive.symm.trans hfound
    rw [hc]
  · exact absurd hid (hnone live hlive)

/-- Where replies are not forged, whoever is told a configuration is told the live one. -/
theorem live_of_getConfig {name : String} {reply : Reply} {config : ReplicaConfig}
    (hforges : ¬ cluster.Forges "replSetGetConfig")
    (hrun : (cluster.run session (.getConfig name)).1 = .ok reply) (hok : reply.isOk = true)
    (hconfig : reply.config = some config) :
    cluster.replicaSet = some config ∧ config.id = name := by
  rcases cluster.run_cases session (.getConfig name) with ⟨-, hc⟩ | ⟨reply', hfault, -⟩ |
    ⟨fault, failure, -, -, hc⟩
  · rw [hc] at hrun
    cases hrun
    rcases (cluster.received (.getConfig name)).getConfig_cases name with
      ⟨live, hlive, hid, hreply⟩ | ⟨-, hrefused⟩
    · rw [apply, hreply] at hconfig
      cases hconfig
      exact ⟨hlive, hid⟩
    · cases hrefused.symm.trans hok
  · exact absurd ⟨reply', mem_of_takeFault hfault⟩ hforges
  · rw [hc] at hrun
    cases hrun

end Cluster

end ClusterConvergence
