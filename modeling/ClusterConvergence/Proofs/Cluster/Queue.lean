import ClusterConvergence.Proofs.Cluster.History

/-!
# First in, first out

Faults are put at the end of one line while commands take them out of its middle, in any order of
deeds.  For each name the account is kept apart: the faults that waited for it at first, followed by
those that were put in line since, are the ones that its commands took, in the order in which they
took them, followed by those that still wait (`Shared.faults_balance`).

Main statement: `Shared.faults_wait_in_line`.
-/

namespace ClusterConvergence

/-- The fault that a deed puts in line, if it does. -/
def Deed.injected {ρ : Type} : Deed ρ → List (String × Fault)
  | .inject name fault => [(name, fault)]
  | _ => []

namespace Shared

variable {ρ : Type}

/-- The fault that a deed takes, if it does, with the name of the command that it hits. -/
def takenBy (shared : Shared ρ) : Deed ρ → List (String × Fault)
  | .send _ _ command => (shared.cluster.receive command).1.toList.map (command.name, ·)
  | _ => []

/-- The faults that a list of deeds takes, in the order in which they are taken. -/
def taken (shared : Shared ρ) : List (Deed ρ) → List (String × Fault)
  | [] => []
  | deed :: deeds => shared.takenBy deed ++ (shared.after deed).taken deeds

/-- A deed keeps the account of each name. -/
theorem faults_balance_after (shared : Shared ρ) (deed : Deed ρ) (name : String) :
    faultsFor name shared.cluster.faults ++ faultsFor name deed.injected =
      faultsFor name (shared.takenBy deed) ++ faultsFor name (shared.after deed).cluster.faults := by
  cases deed with
  | connect who address => simp [Deed.injected, takenBy, after]
  | release who => simp [Deed.injected, takenBy, after, Cluster.release]
  | inject command fault => simp [Deed.injected, takenBy, after, Cluster.inject]
  | send who session command =>
    have hafter : (shared.after (.send who session command)).cluster.faults =
        (takeFault command.name shared.cluster.faults).2 := Cluster.run_faults _ _ _
    have htaken : shared.takenBy (.send who session command) =
        (takeFault command.name shared.cluster.faults).1.toList.map (command.name, ·) := rfl
    rw [hafter, htaken]
    simp only [Deed.injected, faultsFor_nil, List.append_nil]
    by_cases hname : name = command.name
    · rw [hname, faultsFor_map_self]
      exact (toList_append_faultsFor _ _).symm
    · rw [faultsFor_map_of_ne hname, faultsFor_takeFault_of_ne hname, List.nil_append]

/-- Deeds keep the account of each name. -/
theorem faults_balance (shared : Shared ρ) (deeds : List (Deed ρ)) (name : String) :
    faultsFor name shared.cluster.faults ++ faultsFor name (deeds.flatMap Deed.injected) =
      faultsFor name (shared.taken deeds) ++ faultsFor name (shared.run deeds).cluster.faults := by
  induction deeds generalizing shared with
  | nil => simp [taken, run]
  | cons deed deeds ih =>
    have hrun : shared.run (deed :: deeds) = (shared.after deed).run deeds := rfl
    rw [List.flatMap_cons, taken, hrun, faultsFor_append, faultsFor_append, ← List.append_assoc,
      faults_balance_after, List.append_assoc, ih, List.append_assoc]

/-- Whatever was done to a cluster, and in whatever order, the faults that waited for a name and
those that were put in line for it were taken first in, first out, each once, as far as they do not
wait still.  The next command takes the first fault that waits for its name, whenever there is one,
and that fault answers it; all other faults of the name move up, and those of other names stay as
they are. -/
theorem faults_wait_in_line (start : Cluster) (deeds : List (Deed ρ)) :
    let reached := ((fresh start).run deeds).cluster
    (∀ name, faultsFor name start.faults ++ faultsFor name (deeds.flatMap Deed.injected) =
      faultsFor name ((fresh start).taken deeds) ++ faultsFor name reached.faults) ∧
    ∀ session command,
      let line := faultsFor command.name reached.faults
      let after := (reached.run session command).2
      (reached.receive command).1 = line.head? ∧
      (reached.run session command).1 =
        line.head?.elim (.ok ((reached.received command).apply session.address command).1)
          (Fault.answer session.address command) ∧
      faultsFor command.name after.faults = line.tail ∧
      after.faults.filter (·.1 != command.name) =
        reached.faults.filter (·.1 != command.name) := by
  intro reached
  refine ⟨fun name => (fresh start).faults_balance deeds name, fun session command => ?_⟩
  intro line after
  have hhead : reached.pendingFault command = line.head? := takeFault_fst _ _
  have hfaults : after.faults = (takeFault command.name reached.faults).2 :=
    Cluster.run_faults _ _ _
  refine ⟨hhead, ?_, ?_, ?_⟩
  · rw [Cluster.run_fst, hhead]
  · rw [hfaults, faultsFor_takeFault]
  · rw [hfaults, filter_takeFault]

/-- The commands take the faults of two names crosswise, and each line keeps its order. -/
example :
    let send := Deed.send () ⟨"r:1"⟩
    let deeds := [.inject "hello" .drop, .inject "addShard" .timeout, .inject "hello" .timeout,
      send (.addShard "s/b:1"), send .hello, send (.addShard "s/b:1")]
    (fresh {}).taken deeds = [("addShard", .timeout), ("hello", .drop)] ∧
      ((fresh {}).run deeds).cluster.faults = [("hello", .timeout)] :=
  ⟨rfl, rfl⟩

end Shared

end ClusterConvergence
