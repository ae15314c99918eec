import ClusterConvergence.Cluster.Session

/-!
# Faults in line

All faults wait in one line, whatever commands they are for, and a command takes the first one of
its name out of its place (`takeFault_cases`).  So the faults of one name form a line of their own,
`faultsFor`: what is taken is its head, what is left is its tail, and the faults of all other names
keep their places.
-/

namespace ClusterConvergence

variable {name other : String} {fault : Fault} {faults : List (String × Fault)}

/-- No fault waits for a command, or the first one that does is taken out of its place. -/
theorem takeFault_cases (name : String) (faults : List (String × Fault)) :
    (takeFault name faults = (none, faults) ∧ ∀ e ∈ faults, e.1 ≠ name) ∨
    ∃ front fault back, faults = front ++ (name, fault) :: back ∧ (∀ e ∈ front, e.1 ≠ name) ∧
      takeFault name faults = (some fault, front ++ back) := by
  induction faults with
  | nil => exact Or.inl ⟨rfl, List.forall_mem_nil _⟩
  | cons hd tl ih =>
    obtain ⟨name', fault'⟩ := hd
    rw [takeFault]
    by_cases hname : name' = name
    · subst hname
      exact Or.inr ⟨[], fault', tl, rfl, List.forall_mem_nil _, if_pos rfl⟩
    · rw [if_neg hname]
      rcases ih with ⟨htake, hnone⟩ | ⟨front, fault, back, rfl, hfront, htake⟩ <;> rw [htake]
      · exact Or.inl ⟨rfl, List.forall_mem_cons.2 ⟨hname, hnone⟩⟩
      · exact Or.inr ⟨(name', fault') :: front, fault, back, rfl,
          List.forall_mem_cons.2 ⟨hname, hfront⟩, rfl⟩

theorem mem_of_takeFault (h : (takeFault name faults).1 = some fault) : (name, fault) ∈ faults := by
  rcases takeFault_cases name faults with ⟨htake, -⟩ | ⟨front, taken, back, rfl, -, htake⟩ <;>
    rw [htake] at h <;> cases h
  exact List.mem_append_right _ List.mem_cons_self

theorem takeFault_sublist (name : String) (faults : List (String × Fault)) :
    (takeFault name faults).2.Sublist faults := by
  rcases takeFault_cases name faults with ⟨htake, -⟩ | ⟨front, taken, back, rfl, -, htake⟩
  · simp [htake]
  · simp [htake]

theorem takeFault_eq_none_iff :
    (takeFault name faults).1 = none ↔ ∀ fault, (name, fault) ∉ faults := by
  rcases takeFault_cases name faults with ⟨htake, hnone⟩ | ⟨front, taken, back, rfl, -, htake⟩ <;>
    rw [htake]
  · exact iff_of_true rfl fun fault hmem => hnone _ hmem rfl
  · exact iff_of_false nofun fun h => h taken (List.mem_append_right _ List.mem_cons_self)

/-! ## The line of one name -/

/-- The faults for the commands of one name among others, in their order. -/
def faultsFor (name : String) (faults : List (String × Fault)) : List Fault :=
  (faults.filter (·.1 == name)).map (·.2)

@[simp] theorem faultsFor_nil (name : String) : faultsFor name [] = [] := rfl

@[simp] theorem faultsFor_append (name : String) (a b : List (String × Fault)) :
    faultsFor name (a ++ b) = faultsFor name a ++ faultsFor name b := by
  simp [faultsFor]

@[simp] theorem faultsFor_cons_self (name : String) (fault : Fault)
    (faults : List (String × Fault)) :
    faultsFor name ((name, fault) :: faults) = fault :: faultsFor name faults := by
  simp [faultsFor]

@[simp] theorem faultsFor_map_self (name : String) (faults : List Fault) :
    faultsFor name (faults.map (name, ·)) = faults := by
  induction faults with
  | nil => rfl
  | cons fault faults ih => rw [List.map_cons, faultsFor_cons_self, ih]

theorem faultsFor_eq_nil (h : ∀ e ∈ faults, e.1 ≠ name) : faultsFor name faults = [] := by
  simpa [faultsFor] using h

theorem faultsFor_map_of_ne (h : other ≠ name) (faults : List Fault) :
    faultsFor other (faults.map (name, ·)) = [] := by
  refine faultsFor_eq_nil fun e he => ?_
  obtain ⟨fault, -, rfl⟩ := List.mem_map.1 he
  exact Ne.symm h

/-- The faults of a name are told by what is left when those of another name are put aside. -/
theorem faultsFor_filter_of_ne (h : other ≠ name) (faults : List (String × Fault)) :
    faultsFor other (faults.filter (·.1 != name)) = faultsFor other faults := by
  rw [faultsFor, List.filter_filter, faultsFor]
  congr 1
  refine List.filter_congr fun e _ => ?_
  by_cases he : e.1 = other
  · simp [he, h]
  · simp [he]

/-- What a command takes is the head of its line, if it is not empty. -/
theorem takeFault_fst (name : String) (faults : List (String × Fault)) :
    (takeFault name faults).1 = (faultsFor name faults).head? := by
  rcases takeFault_cases name faults with ⟨htake, hnone⟩ | ⟨front, fault, back, rfl, hfront, htake⟩
    <;> rw [htake]
  · rw [faultsFor_eq_nil hnone]
    rfl
  · simp [faultsFor_eq_nil hfront]

/-- What a command leaves of its line is the tail. -/
theorem faultsFor_takeFault (name : String) (faults : List (String × Fault)) :
    faultsFor name (takeFault name faults).2 = (faultsFor name faults).tail := by
  rcases takeFault_cases name faults with ⟨htake, hnone⟩ | ⟨front, fault, back, rfl, hfront, htake⟩
    <;> rw [htake]
  · rw [faultsFor_eq_nil hnone]
    rfl
  · simp [faultsFor_eq_nil hfront]

theorem toList_append_faultsFor (name : String) (faults : List (String × Fault)) :
    (takeFault name faults).1.toList ++ faultsFor name (takeFault name faults).2 =
      faultsFor name faults := by
  rw [takeFault_fst, faultsFor_takeFault]
  cases faultsFor name faults <;> rfl

/-- All faults of other names keep their places. -/
theorem filter_takeFault (name : String) (faults : List (String × Fault)) :
    (takeFault name faults).2.filter (·.1 != name) = faults.filter (·.1 != name) := by
  rcases takeFault_cases name faults with ⟨htake, -⟩ | ⟨front, fault, back, rfl, -, htake⟩ <;>
    rw [htake]
  simp

theorem faultsFor_takeFault_of_ne (h : other ≠ name) (faults : List (String × Fault)) :
    faultsFor other (takeFault name faults).2 = faultsFor other faults := by
  rw [← faultsFor_filter_of_ne h, filter_takeFault, faultsFor_filter_of_ne h]

/-- Taking a fault leaves those of another name in their order. -/
theorem takeFault_of_ne (hne : name ≠ other) (faults : List (String × Fault)) :
    (takeFault name (takeFault other faults).2).1 = (takeFault name faults).1 := by
  rw [takeFault_fst, takeFault_fst, faultsFor_takeFault_of_ne hne]

end ClusterConvergence
