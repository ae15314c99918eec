import ClusterConvergence.Proofs.Cluster.Command

/-!
# Dialogues with a cluster

What one party does between two states of a cluster: it opens sessions, gives them back, and sends
commands, each of which is answered or fails.  `Dialogue` keeps the commands and the answers.

Three facts about every dialogue are used from here on.  The log of the cluster grows by exactly the
commands of the dialogue (`Dialogue.commands`).  A fault waits until its command is sent
(`Dialogue.takeFault_fst`).  And the live configuration at the end is the one from before, or one
that was sent on the way (`Dialogue.replicaSet_cases`).
-/

namespace ClusterConvergence

/-- A command that was sent, and what came back. -/
structure Exchange where
  command : AdminCommand
  answer : Except Failure Reply

/-- One party, and nobody else, acts on the cluster `before` and leaves the cluster `after`; the
exchanges are in the order in which they took place. -/
inductive Dialogue : Cluster → List Exchange → Cluster → Prop where
  | nil (cluster : Cluster) : Dialogue cluster [] cluster
  | connect {before after : Cluster} {exchanges : List Exchange} (address : String)
      (h : Dialogue (before.openSession address).2 exchanges after) :
      Dialogue before exchanges after
  | release {before after : Cluster} {exchanges : List Exchange}
      (h : Dialogue before.release exchanges after) : Dialogue before exchanges after
  | send {before after : Cluster} {exchanges : List Exchange} (session : Session)
      (command : AdminCommand) (h : Dialogue (before.run session command).2 exchanges after) :
      Dialogue before (⟨command, (before.run session command).1⟩ :: exchanges) after

namespace Dialogue

variable {a b c before after : Cluster} {exchanges rest : List Exchange}

theorem trans (h : Dialogue a exchanges b) (hrest : Dialogue b rest c) :
    Dialogue a (exchanges ++ rest) c := by
  induction h with
  | nil => exact hrest
  | connect address _ ih => exact connect address (ih hrest)
  | release _ ih => exact release (ih hrest)
  | send session command _ ih => exact send session command (ih hrest)

/-- To give a session back is no exchange. -/
theorem released (h : Dialogue a exchanges b) : Dialogue a exchanges b.release := by
  have hrelease := h.trans (release (nil b.release))
  rwa [List.append_nil] at hrelease

/-- To open a session is no exchange, whether or not there is one then. -/
theorem opened (h : Dialogue a exchanges b) (address : String) :
    Dialogue a exchanges (b.openSession address).2 := by
  have hopen := h.trans (connect address (nil (b.openSession address).2))
  rwa [List.append_nil] at hopen

/-- A further command is a further exchange. -/
theorem sent (h : Dialogue a exchanges b) {session : Session} {command : AdminCommand}
    {answer : Except Failure Reply} (hanswer : (b.run session command).1 = answer) :
    Dialogue a (exchanges ++ [⟨command, answer⟩]) (b.run session command).2 := by
  rw [← hanswer]
  exact h.trans (send session command (nil _))

/-- The log grows by the commands of the dialogue, whatever faults hit them. -/
theorem commands (h : Dialogue before exchanges after) :
    after.commands = before.commands ++ exchanges.map Exchange.command := by
  induction h with
  | nil => exact (List.append_nil _).symm
  | connect address _ ih => rw [ih, Cluster.openSession_commands]
  | release _ ih => exact ih
  | send session command _ ih =>
    rw [ih, Cluster.run_commands, List.append_assoc]
    rfl

/-- A fault waits until its command is sent. -/
theorem takeFault_fst (h : Dialogue before exchanges after) {name : String}
    (hunsent : ∀ e ∈ exchanges, e.command.name ≠ name) :
    (takeFault name after.faults).1 = (takeFault name before.faults).1 := by
  induction h with
  | nil => rfl
  | connect address _ ih => rw [ih hunsent, Cluster.openSession_faults]
  | release _ ih => exact ih hunsent
  | send session command _ ih =>
    rw [ih fun e hmem => hunsent e (List.mem_cons_of_mem _ hmem), Cluster.run_faults]
    exact takeFault_of_ne (Ne.symm (hunsent _ List.mem_cons_self)) _

/-- Nothing but the configurations that were sent can have become the live one. -/
theorem replicaSet_cases (h : Dialogue before exchanges after) :
    after.replicaSet = before.replicaSet ∨
      ∃ config, (.initiate config ∈ exchanges.map Exchange.command ∨
        .reconfig config ∈ exchanges.map Exchange.command) ∧ after.replicaSet = some config := by
  induction h with
  | nil => exact Or.inl rfl
  | connect address _ ih => rwa [Cluster.openSession_replicaSet] at ih
  | release _ ih => exact ih
  | @send before after exchanges session command _ ih =>
    rw [List.map_cons]
    rcases ih with hkept | ⟨config, hsent, hafter⟩
    · -- nothing was put into effect later, so this command decides
      rw [hkept]
      rcases before.run_replicaSet_cases session command with
        hsame | ⟨config, rfl, -, hnext⟩ | ⟨config, live, rfl, -, -, hnext⟩
      · exact Or.inl hsame
      · exact Or.inr ⟨config, Or.inl List.mem_cons_self, hnext⟩
      · exact Or.inr ⟨config, Or.inr List.mem_cons_self, hnext⟩
    · exact Or.inr ⟨config, hsent.imp (List.mem_cons_of_mem _) (List.mem_cons_of_mem _), hafter⟩

end Dialogue

/-- Between two states something of a certain shape was said. -/
def Said (before : Cluster) (shape : List Exchange → Prop) (after : Cluster) : Prop :=
  ∃ exchanges, Dialogue before exchanges after ∧ shape exchanges

theorem Said.released {before after : Cluster} {shape : List Exchange → Prop}
    (h : Said before shape after) : Said before shape after.release := by
  obtain ⟨exchanges, hsaid, hshape⟩ := h
  exact ⟨exchanges, hsaid.released, hshape⟩

/-- Where nothing but hello is said, there is no command of another name. -/
theorem countP_hellos {hellos : List Exchange} (hhello : ∀ e ∈ hellos, e.command = .hello)
    {name : String} (hname : name ≠ "hello") :
    (hellos.map Exchange.command).countP (·.name == name) = 0 := by
  rw [List.countP_map, List.countP_eq_zero]
  intro e hmem
  rw [Function.comp_apply, hhello e hmem, beq_iff_eq]
  exact hname.symm

end ClusterConvergence
