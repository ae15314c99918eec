import Mathlib.Computability.Language
import ClusterConvergence.Proofs.Sharding.Collection

/-!
# The grammar of namespaces

Whether a text is a namespace is said in three ways: by the scan that splits it at its first point,
by a regular expression over classes of characters, and by its two parts, the name of a database and
the name of a collection.  All three agree on every text, whatever characters it holds.  The parts
are those that a collection gives as its database and its name: there is no point in the name of a
database, so nothing but the first one can stand behind it.

Main statements: `namesCollection_iff` and `mem_namespacePattern_iff` for the three ways, and
`parse_accepts_grammar` for collections that are checked.
-/

namespace ClusterConvergence

open scoped Computability

/-! ## The scan -/

theorem splitPoint_append_point {db : List Char} (coll : List Char) (h : '.' ∉ db) :
    splitPoint (db ++ '.' :: coll) = some (db, coll) := by
  induction db with
  | nil => simp [splitPoint]
  | cons c db ih =>
    rw [List.mem_cons, not_or] at h
    rw [List.cons_append, splitPoint, if_neg (Ne.symm h.1), ih h.2]
    rfl

theorem isDatabaseName_iff {cs : List Char} :
    isDatabaseName cs = true ↔ cs ≠ [] ∧ ∀ c ∈ cs, c ∉ ['/', '\\', '.', ' ', '"', '$'] := by
  simp [isDatabaseName, isDatabaseChar]

theorem isCollectionName_iff {cs : List Char} :
    isCollectionName cs = true ↔
      cs ≠ [] ∧ '$' ∉ cs ∧ ∀ c ∈ cs.head?, isBlank c = false := by
  cases cs with
  | nil => simp [isCollectionName]
  | cons c cs =>
    simp [isCollectionName, and_right_comm, List.forall_mem_ne', eq_comm (a := '$')]

/-! ## The two parts -/

/-- A namespace is written as the name of a database, a point and the name of a collection. -/
structure NamesCollection (db coll ns : String) : Prop where
  joined : db ++ "." ++ coll = ns
  database_ne : db ≠ ""
  database_chars : ∀ c ∈ db.toList, c ∉ ['/', '\\', '.', ' ', '"', '$']
  collection_ne : coll ≠ ""
  no_dollar : '$' ∉ coll.toList
  no_blank_first : ∀ c ∈ coll.toList.head?, isBlank c = false

theorem namesCollection_ofList {a b : List Char} {ns : String} :
    NamesCollection (String.ofList a) (String.ofList b) ns ↔
      ns.toList = a ++ '.' :: b ∧ (a ≠ [] ∧ ∀ c ∈ a, c ∉ ['/', '\\', '.', ' ', '"', '$']) ∧
        b ≠ [] ∧ '$' ∉ b ∧ ∀ c ∈ b.head?, isBlank c = false := by
  have hjoined : String.ofList a ++ "." ++ String.ofList b = ns ↔ ns.toList = a ++ '.' :: b := by
    rw [← String.toList_inj, eq_comm]
    simp
  constructor
  · rintro ⟨htext, hdb, hchars, hcoll, hdollar, hfirst⟩
    rw [String.toList_ofList] at hchars hdollar hfirst
    exact ⟨hjoined.1 htext, ⟨by simpa using hdb, hchars⟩, by simpa using hcoll, hdollar, hfirst⟩
  · rintro ⟨htext, ⟨hdb, hchars⟩, hcoll, hdollar, hfirst⟩
    rw [← String.toList_ofList (l := a)] at hchars
    rw [← String.toList_ofList (l := b)] at hdollar hfirst
    exact ⟨hjoined.2 htext, by simpa using hdb, hchars, by simpa using hcoll, hdollar, hfirst⟩

/-- The scan accepts a text and splits it exactly if the text is written as these parts; so there
are no other parts that it is written as. -/
theorem namesCollection_iff {db coll ns : String} :
    NamesCollection db coll ns ↔ isNamespace ns = true ∧ splitNamespace ns = (db, coll) := by
  constructor
  · intro h
    rw [← String.ofList_toList (s := db), ← String.ofList_toList (s := coll),
      namesCollection_ofList, ← isDatabaseName_iff, ← isCollectionName_iff] at h
    obtain ⟨htext, hdb, hcoll⟩ := h
    have hpoint : '.' ∉ db.toList := fun hmem => (isDatabaseName_iff.1 hdb).2 '.' hmem (by decide)
    have hsplit : splitPoint ns.toList = some (db.toList, coll.toList) := by
      rw [htext, splitPoint_append_point coll.toList hpoint]
    rw [isNamespace, splitNamespace, hsplit]
    exact ⟨by simp [hdb, hcoll], by simp⟩
  · rintro ⟨hns, hparts⟩
    rw [isNamespace] at hns
    split at hns
    · next a b hsplit =>
      rw [splitNamespace, hsplit] at hparts
      cases hparts
      rw [Bool.and_eq_true, isDatabaseName_iff, isCollectionName_iff] at hns
      exact namesCollection_ofList.2 ⟨(splitPoint_append hsplit).symm, hns⟩
    · cases hns

/-- The parts of a namespace, if it is one. -/
theorem exists_namesCollection_iff {ns : String} :
    (∃ db coll, NamesCollection db coll ns) ↔ isNamespace ns = true := by
  simp only [namesCollection_iff]
  exact ⟨fun ⟨_, _, hns, _⟩ => hns, fun hns => ⟨_, _, hns, rfl⟩⟩

/-! ## The regular expression -/

/-- The texts of one character of a class. -/
def oneOf (p : Char → Prop) : Language Char :=
  {w | ∃ c, p c ∧ w = [c]}

variable {p q : Char → Prop} {l : Language Char} {w : List Char}

theorem mem_oneOf_mul : w ∈ oneOf p * l ↔ ∃ c cs, w = c :: cs ∧ p c ∧ cs ∈ l := by
  rw [Language.mem_mul]
  constructor
  · rintro ⟨_, ⟨c, hc, rfl⟩, cs, hcs, rfl⟩
    exact ⟨c, cs, rfl, hc, hcs⟩
  · rintro ⟨c, cs, rfl, hc, hcs⟩
    exact ⟨[c], ⟨c, hc, rfl⟩, cs, hcs, rfl⟩

theorem mem_kstar_oneOf : w ∈ (oneOf p)∗ ↔ ∀ c ∈ w, p c := by
  rw [Language.mem_kstar]
  constructor
  · rintro ⟨words, rfl, hwords⟩ c hc
    obtain ⟨word, hword, hmem⟩ := List.mem_flatten.1 hc
    obtain ⟨d, hd, rfl⟩ := hwords word hword
    rwa [List.mem_singleton.1 hmem]
  · intro h
    refine ⟨w.map ([·]), ?_, List.forall_mem_map.2 fun c hc => ⟨c, h c hc, rfl⟩⟩
    induction w with
    | nil => rfl
    | cons c w ih => rw [List.map_cons, List.flatten_cons, ← ih (List.forall_mem_cons.1 h).2]; rfl

/-- The pattern of namespaces: one or more characters that a database may have, a point, a character
that is neither a dollar sign nor blank, and any number of characters that are no dollar sign. -/
def namespacePattern : Language Char :=
  oneOf (· ∉ ['/', '\\', '.', ' ', '"', '$']) * (oneOf (· ∉ ['/', '\\', '.', ' ', '"', '$']))∗ *
    (oneOf (· = '.') * (oneOf (fun c => c ≠ '$' ∧ isBlank c = false) * (oneOf (· ≠ '$'))∗))

theorem mem_namespacePattern {w : List Char} :
    w ∈ namespacePattern ↔ ∃ a b, w = a ++ '.' :: b ∧
      (a ≠ [] ∧ ∀ c ∈ a, c ∉ ['/', '\\', '.', ' ', '"', '$']) ∧
        b ≠ [] ∧ '$' ∉ b ∧ ∀ c ∈ b.head?, isBlank c = false := by
  rw [namespacePattern, Language.mem_mul]
  simp only [mem_oneOf_mul, mem_kstar_oneOf]
  constructor
  · rintro ⟨_, ⟨c, cs, rfl, hc, hcs⟩, _, ⟨_, _, rfl, rfl, d, ds, rfl, hd, hds⟩, rfl⟩
    refine ⟨c :: cs, d :: ds, rfl, ⟨List.cons_ne_nil c cs, List.forall_mem_cons.2 ⟨hc, hcs⟩⟩,
      List.cons_ne_nil d ds, ?_, ?_⟩
    · exact List.not_mem_cons_of_ne_of_not_mem hd.1.symm fun hmem => hds '$' hmem rfl
    · rintro _ ⟨⟩
      exact hd.2
  · rintro ⟨a, b, rfl, ⟨ha, hchars⟩, hb, hdollar, hfirst⟩
    obtain ⟨c, cs, rfl⟩ := List.exists_cons_of_ne_nil ha
    obtain ⟨d, ds, rfl⟩ := List.exists_cons_of_ne_nil hb
    rw [List.forall_mem_cons] at hchars
    rw [List.mem_cons, not_or] at hdollar
    refine ⟨c :: cs, ⟨c, cs, rfl, hchars⟩, _, ⟨'.', _, rfl, rfl, d, ds, rfl, ?_, ?_⟩, rfl⟩
    · exact ⟨Ne.symm hdollar.1, hfirst d rfl⟩
    · rintro e he rfl
      exact hdollar.2 he

/-- A text matches the pattern exactly if it is written as the parts of a namespace.  The pattern
does not say at which point it splits a text, but only the first one will do. -/
theorem mem_namespacePattern_iff {ns : String} :
    ns.toList ∈ namespacePattern ↔ ∃ db coll, NamesCollection db coll ns := by
  rw [mem_namespacePattern]
  constructor
  · rintro ⟨a, b, h⟩
    exact ⟨_, _, namesCollection_ofList.2 h⟩
  · rintro ⟨db, coll, h⟩
    rw [← String.ofList_toList (s := db), ← String.ofList_toList (s := coll)] at h
    exact ⟨_, _, namesCollection_ofList.1 h⟩

/-! ## Collections that are checked -/

namespace ShardedCollection

variable {ns key : String}

theorem parse_eq_malformed_iff :
    parse ns key = .error (.invalidConfiguration
        ("sharded collection '" ++ ns ++ "' is not of the form 'db.collection'")) ↔
      isNamespace ns = false := by
  have hother : "' has an empty shard key" ≠ "' is not of the form 'db.collection'" := by decide
  rw [parse]
  cases isNamespace ns <;> cases isBlankText key <;> simp [hother, String.append_right_inj]

theorem parse_eq_emptyKey_iff :
    parse ns key = .error (.invalidConfiguration
        ("sharded collection '" ++ ns ++ "' has an empty shard key")) ↔
      isNamespace ns = true ∧ isBlankText key = true := by
  have hother : "' is not of the form 'db.collection'" ≠ "' has an empty shard key" := by decide
  rw [parse]
  cases isNamespace ns <;> cases isBlankText key <;> simp [hother, String.append_right_inj]

end ShardedCollection

theorem exists_not_isBlank_iff {key : String} :
    (∃ ch ∈ key.toList, isBlank ch = false) ↔ isBlankText key = false := by
  rw [isBlankText, List.all_eq_false]
  simp

/-- A collection is accepted exactly if its namespace matches the pattern, that is, if it is written
as the name of a database, a point and the name of a collection, and if something in its key is not
blank.  An accepted collection keeps the two texts as they were given, and there is one way only to
take its namespace apart: into its database and its name.  Of a malformed namespace and an empty key
the namespace is reported. -/
theorem parse_accepts_grammar (ns key : String) :
    (ns.toList ∈ namespacePattern ↔ ∃ db coll, NamesCollection db coll ns) ∧
    ((∃ c, ShardedCollection.parse ns key = .ok c) ↔
      (∃ db coll, NamesCollection db coll ns) ∧ ∃ ch ∈ key.toList, isBlank ch = false) ∧
    (∀ c, ShardedCollection.parse ns key = .ok c →
      c.ns = ns ∧ c.key = key ∧ c.database ++ "." ++ c.collection = ns ∧
        ∀ db coll, NamesCollection db coll ns ↔ db = c.database ∧ coll = c.collection) ∧
    (ShardedCollection.parse ns key = .error (.invalidConfiguration
        ("sharded collection '" ++ ns ++ "' is not of the form 'db.collection'")) ↔
      ¬ ∃ db coll, NamesCollection db coll ns) ∧
    (ShardedCollection.parse ns key = .error (.invalidConfiguration
        ("sharded collection '" ++ ns ++ "' has an empty shard key")) ↔
      (∃ db coll, NamesCollection db coll ns) ∧ ∀ ch ∈ key.toList, isBlank ch = true) := by
  refine ⟨mem_namespacePattern_iff, ?accepted, ?parts, ?malformed, ?emptyKey⟩
  case accepted =>
    rw [exists_namesCollection_iff, exists_not_isBlank_iff]
    simp only [ShardedCollection.parse_eq_ok_iff, exists_eq_left]
  case parts =>
    intro c hc
    obtain ⟨rfl, hns, -⟩ := ShardedCollection.parse_eq_ok_iff.1 hc
    have hparts : ∀ db coll, NamesCollection db coll ns ↔
        db = (splitNamespace ns).1 ∧ coll = (splitNamespace ns).2 := by
      intro db coll
      rw [namesCollection_iff, and_iff_right hns, Prod.ext_iff]
      exact and_congr eq_comm eq_comm
    exact ⟨rfl, rfl, ((hparts _ _).2 ⟨rfl, rfl⟩).joined, hparts⟩
  case malformed =>
    rw [ShardedCollection.parse_eq_malformed_iff, exists_namesCollection_iff, Bool.not_eq_true]
  case emptyKey =>
    rw [ShardedCollection.parse_eq_emptyKey_iff, exists_namesCollection_iff, isBlankText,
      List.all_eq_true]

-- A line break, a second point and characters of any script may stand in the name of a collection.
example : isNamespace "db.\u00e9\n.x/y" = true := by decide

end ClusterConvergence
