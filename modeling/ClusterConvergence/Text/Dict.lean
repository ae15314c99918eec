/-!
# Dictionaries in ascending order

A finite map from names to values whose entries are kept in ascending order of their keys, the order
in which a run works through databases, collections and replica sets.  Strings are ordered by code
point.  The order is part of the type, so two dictionaries with the same entries are equal, however
they were built.

Main statements: `get?_insert` and `get?_erase` describe the two operations through look-up,
`get?_ofList` does so for the dictionary of a list, and `mem_entries_iff` ties look-up to the list of
entries.
-/

namespace ClusterConvergence

/-- A finite map with its entries in ascending order of their keys. -/
structure Dict (β : Type) where
  /-- The entries, each key once. -/
  entries : List (String × β)
  /-- The keys ascend strictly. -/
  ascending : entries.Pairwise (fun a b => a.1 < b.1)

namespace Dict

variable {β γ : Type}

@[ext] theorem ext {a b : Dict β} (h : a.entries = b.entries) : a = b := by
  cases a; cases b; cases h; rfl

instance [DecidableEq β] : DecidableEq (Dict β) := fun a b =>
  decidable_of_iff (a.entries = b.entries) ⟨ext, fun h => h ▸ rfl⟩

/-- The dictionary without entries. -/
def empty : Dict β := ⟨[], List.Pairwise.nil⟩

instance : Inhabited (Dict β) := ⟨empty⟩

/-! ## Inserting an entry -/

/-- Put an entry at its place in an ascending list; an entry with the same key is replaced. -/
def insertEntry (k : String) (v : β) : List (String × β) → List (String × β)
  | [] => [(k, v)]
  | (k', v') :: rest =>
    if k < k' then (k, v) :: (k', v') :: rest
    else if k = k' then (k, v) :: rest
    else (k', v') :: insertEntry k v rest

theorem mem_of_mem_insertEntry {k : String} {v : β} {e : String × β} {l : List (String × β)}
    (h : e ∈ insertEntry k v l) : e = (k, v) ∨ e ∈ l := by
  induction l with
  | nil => simpa [insertEntry] using h
  | cons hd tl ih =>
    obtain ⟨k', v'⟩ := hd
    rw [insertEntry] at h
    split at h
    · simpa using h
    · split at h
      · rcases List.mem_cons.1 h with h | h
        · exact Or.inl h
        · exact Or.inr (List.mem_cons_of_mem _ h)
      · rcases List.mem_cons.1 h with h | h
        · exact Or.inr (h ▸ List.mem_cons_self)
        · rcases ih h with h | h
          · exact Or.inl h
          · exact Or.inr (List.mem_cons_of_mem _ h)

theorem ascending_insertEntry (k : String) (v : β) {l : List (String × β)}
    (h : l.Pairwise (fun a b => a.1 < b.1)) :
    (insertEntry k v l).Pairwise (fun a b => a.1 < b.1) := by
  induction l with
  | nil => simp [insertEntry]
  | cons hd tl ih =>
    obtain ⟨k', v'⟩ := hd
    rw [List.pairwise_cons] at h
    rw [insertEntry]
    split
    · next hlt =>
      refine List.pairwise_cons.2 ⟨fun e he => ?_, List.pairwise_cons.2 h⟩
      rcases List.mem_cons.1 he with rfl | he
      · exact hlt
      · exact String.lt_trans hlt (h.1 e he)
    · split
      · next heq =>
        subst heq
        exact List.pairwise_cons.2 h
      · next hlt hne =>
        refine List.pairwise_cons.2 ⟨fun e he => ?_, ih h.2⟩
        rcases mem_of_mem_insertEntry he with rfl | he
        · exact Std.lt_of_le_of_ne (String.not_lt.1 hlt) (Ne.symm hne)
        · exact h.1 e he

/-- Put `v` under `k`, in place of what stood there. -/
def insert (d : Dict β) (k : String) (v : β) : Dict β :=
  ⟨insertEntry k v d.entries, ascending_insertEntry k v d.ascending⟩

/-- The dictionary of a list of entries; of two with the same key the later one counts. -/
def ofList (l : List (String × β)) : Dict β :=
  l.foldl (fun d e => d.insert e.1 e.2) empty

/-! ## Looking up -/

/-- The value under a key in a list of entries. -/
def findEntry (k : String) : List (String × β) → Option β
  | [] => none
  | (k', v) :: rest => if k' = k then some v else findEntry k rest

/-- The value under a key. -/
def get? (d : Dict β) (k : String) : Option β :=
  findEntry k d.entries

/-- Whether there is a value under a key. -/
def contains (d : Dict β) (k : String) : Bool :=
  (d.get? k).isSome

/-- The keys, in ascending order. -/
def keys (d : Dict β) : List String :=
  d.entries.map (·.1)

@[simp] theorem get?_empty (k : String) : (empty : Dict β).get? k = none := rfl

theorem findEntry_insertEntry (k k' : String) (v : β) (l : List (String × β)) :
    findEntry k' (insertEntry k v l) = if k = k' then some v else findEntry k' l := by
  induction l with
  | nil => simp [insertEntry, findEntry]
  | cons hd tl ih =>
    obtain ⟨k₀, v₀⟩ := hd
    rw [insertEntry]
    split
    · simp [findEntry]
    · split
      · next h => subst h; by_cases hk : k = k' <;> simp [findEntry, hk]
      · next h =>
        rw [findEntry, ih, findEntry]
        by_cases hk : k₀ = k'
        · subst hk; simp [h]
        · simp [hk]

/-- Looking up after an insertion. -/
theorem get?_insert (d : Dict β) (k k' : String) (v : β) :
    (d.insert k v).get? k' = if k = k' then some v else d.get? k' :=
  findEntry_insertEntry k k' v d.entries

@[simp] theorem get?_insert_self (d : Dict β) (k : String) (v : β) :
    (d.insert k v).get? k = some v := by simp [get?_insert]

theorem mem_of_findEntry {k : String} {v : β} {l : List (String × β)}
    (h : findEntry k l = some v) : (k, v) ∈ l := by
  induction l with
  | nil => simp [findEntry] at h
  | cons hd tl ih =>
    obtain ⟨k', v'⟩ := hd
    rw [findEntry] at h
    split at h
    · next hk => subst hk; cases h; exact List.mem_cons_self
    · exact List.mem_cons_of_mem _ (ih h)

theorem findEntry_of_mem {k : String} {v : β} {l : List (String × β)}
    (hl : l.Pairwise (fun a b => a.1 < b.1)) (h : (k, v) ∈ l) : findEntry k l = some v := by
  induction l with
  | nil => simp at h
  | cons hd tl ih =>
    obtain ⟨k', v'⟩ := hd
    rw [List.pairwise_cons] at hl
    rw [findEntry]
    rcases List.mem_cons.1 h with h | h
    · cases h; simp
    · have : k' ≠ k := by
        intro hk
        subst hk
        exact String.lt_irrefl _ (hl.1 (k', v) h)
      simp [this, ih hl.2 h]

/-- An entry is listed exactly when look-up finds it. -/
theorem mem_entries_iff (d : Dict β) (k : String) (v : β) :
    (k, v) ∈ d.entries ↔ d.get? k = some v :=
  ⟨findEntry_of_mem d.ascending, mem_of_findEntry⟩

theorem filter_findEntry (k : String) {l : List (String × β)}
    (hl : l.Pairwise (fun a b => a.1 < b.1)) :
    l.filter (fun e => e.1 == k) = ((findEntry k l).map fun v => (k, v)).toList := by
  induction l with
  | nil => rfl
  | cons hd tl ih =>
    obtain ⟨k', v⟩ := hd
    rw [List.pairwise_cons] at hl
    rw [findEntry]
    by_cases hk : k' = k
    · subst hk
      have hrest : tl.filter (fun e => e.1 == k') = [] := by
        refine List.filter_eq_nil_iff.2 fun e he heq => ?_
        have hlt := hl.1 e he
        rw [beq_iff_eq.1 heq] at hlt
        exact String.lt_irrefl _ hlt
      simp [hrest]
    · simp [hk, ih hl.2]

/-- What is listed under a key is what look-up finds there. -/
theorem filter_entries (d : Dict β) (k : String) :
    d.entries.filter (fun e => e.1 == k) = ((d.get? k).map fun v => (k, v)).toList :=
  filter_findEntry k d.ascending

/-- A key is listed exactly when look-up finds something under it. -/
theorem mem_keys_iff (d : Dict β) (k : String) : k ∈ d.keys ↔ ∃ v, d.get? k = some v := by
  rw [keys, List.mem_map]
  constructor
  · rintro ⟨⟨k', v⟩, hmem, rfl⟩
    exact ⟨v, (d.mem_entries_iff k' v).1 hmem⟩
  · rintro ⟨v, hget⟩
    exact ⟨(k, v), (d.mem_entries_iff k v).2 hget, rfl⟩

theorem pairwise_keys (d : Dict β) : d.keys.Pairwise (· < ·) :=
  List.pairwise_map.2 d.ascending

/-! ## Dictionaries of lists -/

theorem get?_foldl_insert_of_not_mem {k : String} {l : List (String × β)}
    (h : k ∉ l.map (·.1)) (d : Dict β) :
    (l.foldl (fun d e => d.insert e.1 e.2) d).get? k = d.get? k := by
  induction l generalizing d with
  | nil => rfl
  | cons e l ih =>
    rw [List.map_cons, List.mem_cons, not_or] at h
    rw [List.foldl_cons, ih h.2, get?_insert, if_neg (Ne.symm h.1)]

theorem get?_foldl_insert_of_mem {k : String} {v : β} {l : List (String × β)}
    (hl : (l.map (·.1)).Nodup) (h : (k, v) ∈ l) (d : Dict β) :
    (l.foldl (fun d e => d.insert e.1 e.2) d).get? k = some v := by
  induction l generalizing d with
  | nil => cases h
  | cons e l ih =>
    rw [List.map_cons, List.nodup_cons] at hl
    rw [List.foldl_cons]
    rcases List.mem_cons.1 h with rfl | h
    · rw [get?_foldl_insert_of_not_mem hl.1, get?_insert_self]
    · exact ih hl.2 h _

/-- In a list that has each key once, look-up finds what is listed. -/
theorem get?_ofList {k : String} {v : β} {l : List (String × β)} (hl : (l.map (·.1)).Nodup)
    (h : (k, v) ∈ l) : (ofList l).get? k = some v :=
  get?_foldl_insert_of_mem hl h empty

/-- What is found under a listed key is listed under it, even if the key repeats. -/
theorem exists_get?_foldl_insert {k : String} {l : List (String × β)} (h : k ∈ l.map (·.1))
    (d : Dict β) :
    ∃ v, (k, v) ∈ l ∧ (l.foldl (fun d e => d.insert e.1 e.2) d).get? k = some v := by
  induction l generalizing d with
  | nil => cases h
  | cons e l ih =>
    rw [List.foldl_cons]
    -- a later entry of the key replaces this one
    by_cases hlater : k ∈ l.map (·.1)
    · obtain ⟨v, hmem, hget⟩ := ih hlater (d.insert e.1 e.2)
      exact ⟨v, List.mem_cons_of_mem _ hmem, hget⟩
    · obtain rfl : k = e.1 := (List.mem_cons.1 h).resolve_right hlater
      refine ⟨e.2, List.mem_cons_self, ?_⟩
      rw [get?_foldl_insert_of_not_mem hlater, get?_insert_self]

theorem exists_get?_ofList {k : String} {l : List (String × β)} (h : k ∈ l.map (·.1)) :
    ∃ v, (k, v) ∈ l ∧ (ofList l).get? k = some v :=
  exists_get?_foldl_insert h empty

theorem mem_keys_ofList {k : String} {l : List (String × β)} :
    k ∈ (ofList l).keys ↔ k ∈ l.map (·.1) := by
  rw [mem_keys_iff]
  constructor
  · rintro ⟨v, hget⟩
    refine Decidable.byContradiction fun hnot => ?_
    rw [ofList, get?_foldl_insert_of_not_mem hnot] at hget
    cases hget
  · intro hmem
    obtain ⟨v, -, hget⟩ := exists_get?_ofList hmem
    exact ⟨v, hget⟩

/-- An entry behind all others is put at the end. -/
theorem insertEntry_append {k : String} {v : β} {l : List (String × β)}
    (h : ∀ e ∈ l, e.1 < k) : insertEntry k v l = l ++ [(k, v)] := by
  induction l with
  | nil => rfl
  | cons e l ih =>
    have hlt : e.1 < k := h e List.mem_cons_self
    rw [insertEntry, if_neg (String.lt_asymm hlt), if_neg (Ne.symm (String.ne_of_lt hlt)),
      ih fun e' he' => h e' (List.mem_cons_of_mem _ he'), List.cons_append]

theorem entries_foldl_insert {l : List (String × β)} {d : Dict β}
    (h : (d.entries ++ l).Pairwise fun a b => a.1 < b.1) :
    (l.foldl (fun d e => d.insert e.1 e.2) d).entries = d.entries ++ l := by
  induction l generalizing d with
  | nil => rw [List.foldl_nil, List.append_nil]
  | cons e l ih =>
    have hlast : ∀ e' ∈ d.entries, e'.1 < e.1 := fun e' he' =>
      (List.pairwise_append.1 h).2.2 e' he' e List.mem_cons_self
    have hinsert : (d.insert e.1 e.2).entries = d.entries ++ [e] := insertEntry_append hlast
    rw [List.append_cons, ← hinsert] at h
    rw [List.foldl_cons, ih h, hinsert, ← List.append_cons]

/-- A dictionary is the dictionary of its entries. -/
theorem ofList_entries (d : Dict β) : ofList d.entries = d :=
  ext (entries_foldl_insert d.ascending)

/-! ## Removing and changing entries -/

/-- Take away what stands under a key. -/
def erase (d : Dict β) (k : String) : Dict β :=
  ⟨d.entries.filter (fun e => e.1 != k), d.ascending.filter _⟩

/-- Looking up after a removal. -/
theorem get?_erase (d : Dict β) (k k' : String) :
    (d.erase k).get? k' = if k = k' then none else d.get? k' := by
  obtain ⟨l, hl⟩ := d
  simp only [get?, erase]
  clear hl
  induction l with
  | nil => simp [findEntry]
  | cons hd tl ih =>
    obtain ⟨k₀, v₀⟩ := hd
    rw [List.filter_cons]
    by_cases h : k₀ = k
    · subst h
      simp only [bne_self_eq_false, Bool.false_eq_true, if_false, ih, findEntry]
      by_cases hk : k₀ = k' <;> simp [hk]
    · simp only [bne_iff_ne, ne_eq, h, not_false_eq_true, if_true, findEntry, ih]
      by_cases hk : k₀ = k'
      · subst hk; simp [Ne.symm h]
      · simp [hk]

end Dict

/-- A set of names, kept in ascending order. -/
abbrev NameSet : Type := Dict Unit

namespace NameSet

/-- The set of the names of a list. -/
def ofNames (names : List String) : NameSet :=
  Dict.ofList (names.map (·, ()))

/-- The set with one more name. -/
def add (s : NameSet) (name : String) : NameSet :=
  s.insert name ()

end NameSet

end ClusterConvergence
