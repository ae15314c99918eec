import ClusterConvergence.Proofs.Cluster.Integrity

/-!
# Commands without effect

A cluster changes what it holds at once or not at all.  A command that only reads changes nothing,
nor does one that is refused or that a fault keeps from the cluster; and any other command puts
something in place that was not there, so it does change what the cluster holds.

Main statement: `holdings_stay_iff`.
-/

namespace ClusterConvergence

theorem Dict.insert_ne {β : Type} {d : Dict β} {k : String} (hnew : ¬ d.contains k = true) (v : β) :
    d.insert k v ≠ d := by
  intro hsame
  rw [← hsame, contains, get?_insert_self] at hnew
  exact hnew rfl

namespace Cluster

variable {cluster : Cluster} {address : String} {command : AdminCommand}

/-! ## The answer -/

/-- The answer to a command is told by what the cluster holds and by the primary. -/
theorem apply_fst_congr {a b : Cluster} (hholdings : a.holdings = b.holdings)
    (hprimary : a.primary = b.primary) :
    (a.apply address command).1 = (b.apply address command).1 := by
  have hlive : a.replicaSet = b.replicaSet := congrArg Holdings.replicaSet hholdings
  have hshards : a.shards = b.shards := congrArg Holdings.shards hholdings
  have hdatabases : a.databases = b.databases := congrArg (·.databases) hholdings
  have hcollections : a.collections = b.collections := congrArg (·.collections) hholdings
  cases command with
  | hello => simp only [apply, hello, hprimary]
  | getConfig name => simp only [apply, getConfig, hlive]
  | initiate config =>
    simp only [apply, initiate, hlive]
    split
    · rfl
    · split <;> rfl
  | reconfig config =>
    simp only [apply, reconfig, hlive]
    split
    · rfl
    · split
      · rfl
      · split
        · rfl
        · split <;> rfl
  | addShard shard =>
    simp only [apply, addShard, shardName, hshards]
    split <;> rfl
  | enableSharding database =>
    simp only [apply, enableSharding, hdatabases]
    split <;> rfl
  | shardCollection ns key =>
    simp only [apply, shardCollection, hdatabases, hcollections]
    split
    · rfl
    · split <;> rfl

/-- That a command was received makes no difference to its answer. -/
theorem apply_received_fst (cluster : Cluster) (address : String) (command : AdminCommand) :
    ((cluster.received command).apply address command).1 = (cluster.apply address command).1 :=
  apply_fst_congr rfl rfl

/-! ## The effect -/

/-- A mutation that is not refused puts something in place that was not there before. -/
theorem apply_holdings_ne (hmutation : command.isMutation = true)
    (hok : (cluster.apply address command).1.isOk = true) :
    (cluster.apply address command).2.holdings ≠ cluster.holdings := by
  have hrefused : ∀ errmsg code, (Reply.failure errmsg code).isOk ≠ true :=
    fun errmsg code h => Bool.false_ne_true ((Reply.isOk_failure errmsg code).symm.trans h)
  intro hsame
  -- in each case, what the command puts in place would have been there before
  cases command with
  | hello => cases hmutation
  | getConfig name => cases hmutation
  | initiate config =>
    rw [apply] at hok hsame
    rcases cluster.initiate_cases config with ⟨hnone, -, h⟩ | ⟨_, -, h⟩ | ⟨-, _, -, h⟩ <;>
      rw [h] at hok hsame
    · cases (congrArg Holdings.replicaSet hsame).trans hnone
    · exact hrefused _ _ hok
    · exact hrefused _ _ hok
  | reconfig config =>
    rw [apply] at hok hsame
    rcases cluster.reconfig_cases config with ⟨live, hlive, -, hversion, -, h⟩ | ⟨hfailed, -⟩
    · rw [h] at hsame
      cases (congrArg Holdings.replicaSet hsame).trans hlive
      exact UInt64.lt_irrefl _ hversion
    · cases hfailed.symm.trans hok
  | addShard shard =>
    rw [apply, addShard] at hok hsame
    split at hok
    · exact hrefused _ _ hok
    · next hnew =>
      rw [if_neg hnew] at hsame
      exact List.cons_ne_nil _ _ (List.append_right_eq_self.1 (congrArg Holdings.shards hsame))
  | enableSharding database =>
    rw [apply, enableSharding] at hok hsame
    split at hok
    · exact hrefused _ _ hok
    · next hnew =>
      rw [if_neg hnew] at hsame
      exact Dict.insert_ne hnew () (congrArg (·.databases) hsame)
  | shardCollection ns key =>
    simp only [apply, shardCollection] at hok hsame
    split at hok
    · exact hrefused _ _ hok
    · next hdatabase =>
      split at hok
      · exact hrefused _ _ hok
      · next hnew =>
        rw [if_neg hdatabase, if_neg hnew] at hsame
        exact Dict.insert_ne hnew key (congrArg (·.collections) hsame)

/-- A command leaves what a cluster holds exactly if it only reads or is refused. -/
theorem apply_holdings_eq_iff (cluster : Cluster) (address : String) (command : AdminCommand) :
    (cluster.apply address command).2.holdings = cluster.holdings ↔
      command.isMutation = false ∨ (cluster.apply address command).1.isOk = false := by
  constructor
  · intro hsame
    rw [← Bool.not_eq_true, ← Bool.not_eq_true, ← not_and_or]
    rintro ⟨hmutation, hok⟩
    exact apply_holdings_ne hmutation hok hsame
  · rintro (hreads | hrefused)
    · cases command <;> cases hreads <;> rfl
    · rw [apply_of_refused hrefused]

theorem carriesOut_eq_false_iff (cluster : Cluster) (session : Session) (command : AdminCommand) :
    cluster.carriesOut session command = false ↔
      (cluster.apply session.address command).1.isOk = false ∨
        ∃ fault, cluster.pendingFault command = some fault ∧ fault.takesEffect = false := by
  rw [carriesOut, apply_received_fst, Bool.and_eq_false_iff, or_comm]
  cases cluster.pendingFault command <;> simp

/-- After any command over any session, a cluster holds what it held before exactly if the command
only reads, or the cluster refuses it, whether or not the refusal gets back, or it is hit by a fault
that keeps it from the cluster.  In each case the command, and no other one, is remembered; and no
fault leaves the line but the one that hit the command, if there was one. -/
theorem holdings_stay_iff (cluster : Cluster) (session : Session) (command : AdminCommand) :
    let after := (cluster.run session command).2
    (after.holdings = cluster.holdings ↔
      command.isMutation = false ∨
      (cluster.apply session.address command).1.isOk = false ∨
      ∃ fault, cluster.pendingFault command = some fault ∧ fault.takesEffect = false) ∧
    after.commands = cluster.commands ++ [command] ∧
    ((cluster.pendingFault command = none ∧ after.faults = cluster.faults) ∨
      ∃ front fault back, cluster.pendingFault command = some fault ∧
        cluster.faults = front ++ (command.name, fault) :: back ∧
        after.faults = front ++ back) := by
  intro after
  refine ⟨?_, cluster.run_commands session command, ?_⟩
  · rw [← carriesOut_eq_false_iff]
    cases hcarried : cluster.carriesOut session command with
    | false =>
      have hsame : after.holdings = cluster.holdings := by
        simp only [after, run_of_not_carriesOut hcarried]
        rfl
      exact iff_of_true hsame (Or.inr rfl)
    | true =>
      have hok : ((cluster.received command).apply session.address command).1.isOk = true :=
        (Bool.and_eq_true_iff.1 hcarried).2
      have hstep := (cluster.received command).apply_holdings_eq_iff session.address command
      rw [hok, ← run_of_carriesOut hcarried] at hstep
      exact hstep
  · simp only [after, run_faults, pendingFault]
    rcases takeFault_cases command.name cluster.faults with
      ⟨htake, -⟩ | ⟨front, fault, back, hfaults, -, htake⟩ <;> rw [htake]
    · exact Or.inl ⟨rfl, rfl⟩
    · exact Or.inr ⟨front, fault, back, rfl, hfaults, rfl⟩

end Cluster

end ClusterConvergence
