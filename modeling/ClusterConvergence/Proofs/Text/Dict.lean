import ClusterConvergence.Text.Dict

/-!
# Dictionaries of reordered lists

A dictionary keeps its entries in ascending order, whatever the order in which they were entered. So
two lists of the same entries, each key once, make up the same dictionary (`ofList_of_perm`), and a
list that ascends already is the list of entries (`entries_ofList_of_ascending`).  Look-up finds the
last entry of a key (`get?_ofList_eq_getLast?`), and values may be changed before or after they are
entered (`entries_ofList_map`).
-/

namespace ClusterConvergence

namespace Dict

variable {β γ : Type}

theorem insertEntry_perm {k : String} {v : β} {l : List (String × β)} (h : k ∉ l.map (·.1)) :
    (insertEntry k v l).Perm ((k, v) :: l) := by
  induction l with
  | nil => exact List.Perm.refl _
  | cons e l ih =>
    rw [List.map_cons, List.mem_cons, not_or] at h
    rw [insertEntry, if_neg h.1]
    split
    · exact List.Perm.refl _
    · exact ((ih h.2).cons e).trans (List.Perm.swap _ _ _)

theorem entries_foldl_insert_perm {l : List (String × β)} {d : Dict β}
    (h : ((d.entries ++ l).map (·.1)).Nodup) :
    (l.foldl (fun d e => d.insert e.1 e.2) d).entries.Perm (d.entries ++ l) := by
  induction l generalizing d with
  | nil => rw [List.foldl_nil, List.append_nil]
  | cons e l ih =>
    have hmiddle : (d.entries ++ e :: l).Perm ((e :: d.entries) ++ l) := List.perm_middle
    have hnodup := (hmiddle.map (·.1)).nodup_iff.1 h
    have hnew : e.1 ∉ d.entries.map (·.1) := by
      rw [List.cons_append, List.map_cons, List.nodup_cons, List.map_append] at hnodup
      exact fun hmem => hnodup.1 (List.mem_append_left _ hmem)
    have hinsert : ((d.insert e.1 e.2).entries ++ l).Perm ((e :: d.entries) ++ l) :=
      (insertEntry_perm hnew).append_right l
    rw [List.foldl_cons]
    exact ((ih ((hinsert.map (·.1)).nodup_iff.2 hnodup)).trans hinsert).trans hmiddle.symm

/-- A list that has each key once lists the entries of its dictionary in some order. -/
theorem entries_ofList_perm {l : List (String × β)} (h : (l.map (·.1)).Nodup) :
    (ofList l).entries.Perm l :=
  entries_foldl_insert_perm (d := empty) h

theorem eq_of_entries_perm {a b : Dict β} (h : a.entries.Perm b.entries) : a = b := by
  refine ext (h.eq_of_pairwise ?_ a.ascending b.ascending)
  exact fun _ _ _ _ hlt hgt => absurd (String.lt_trans hlt hgt) (String.lt_irrefl _)

/-- The order in which entries are entered does not matter, as long as no key repeats. -/
theorem ofList_of_perm {l l' : List (String × β)} (h : l.Perm l') (hl : (l.map (·.1)).Nodup) :
    ofList l = ofList l' := by
  refine eq_of_entries_perm ((entries_ofList_perm hl).trans (h.trans ?_))
  exact (entries_ofList_perm ((h.map (·.1)).nodup_iff.1 hl)).symm

theorem entries_ofList_of_ascending {l : List (String × β)}
    (h : l.Pairwise fun a b => a.1 < b.1) : (ofList l).entries = l :=
  entries_foldl_insert (d := empty) h

/-! ## The last entry of a key -/

theorem get?_foldl_insert (k : String) (l : List (String × β)) (d : Dict β) :
    (l.foldl (fun d e => d.insert e.1 e.2) d).get? k =
      (((l.filter fun e => e.1 == k).getLast?).map (·.2)).or (d.get? k) := by
  induction l generalizing d with
  | nil => rfl
  | cons e l ih =>
    rw [List.foldl_cons, ih, get?_insert, List.filter_cons]
    by_cases hk : e.1 = k
    · rw [if_pos hk, if_pos (beq_iff_eq.2 hk), List.getLast?_cons]
      cases (l.filter fun e => e.1 == k).getLast? <;> rfl
    · rw [if_neg hk, if_neg (fun h => hk (beq_iff_eq.1 h))]

/-- Of several entries of a key, look-up finds the last one. -/
theorem get?_ofList_eq_getLast? (k : String) (l : List (String × β)) :
    (ofList l).get? k = ((l.filter fun e => e.1 == k).getLast?).map (·.2) := by
  rw [ofList, get?_foldl_insert, get?_empty, Option.or_none]

/-! ## Changing values -/

theorem insertEntry_map (φ : String → β → γ) (k : String) (v : β) (l : List (String × β)) :
    insertEntry k (φ k v) (l.map fun e => (e.1, φ e.1 e.2)) =
      (insertEntry k v l).map fun e => (e.1, φ e.1 e.2) := by
  induction l with
  | nil => rfl
  | cons e l ih =>
    rw [List.map_cons, insertEntry, ih, insertEntry]
    split
    · rfl
    · split <;> rfl

theorem entries_foldl_insert_map (φ : String → β → γ) (l : List (String × β)) {d : Dict β}
    {d' : Dict γ} (h : d'.entries = d.entries.map fun e => (e.1, φ e.1 e.2)) :
    ((l.map fun e => (e.1, φ e.1 e.2)).foldl (fun d e => d.insert e.1 e.2) d').entries =
      (l.foldl (fun d e => d.insert e.1 e.2) d).entries.map fun e => (e.1, φ e.1 e.2) := by
  induction l generalizing d d' with
  | nil => exact h
  | cons e l ih =>
    refine ih ?_
    show insertEntry e.1 (φ e.1 e.2) d'.entries = _
    rw [h, insertEntry_map]
    rfl

/-- Values may be changed before they are entered or afterwards, knowing their keys. -/
theorem entries_ofList_map (φ : String → β → γ) (l : List (String × β)) :
    (ofList (l.map fun e => (e.1, φ e.1 e.2))).entries =
      (ofList l).entries.map fun e => (e.1, φ e.1 e.2) :=
  entries_foldl_insert_map φ l rfl

end Dict

end ClusterConvergence
