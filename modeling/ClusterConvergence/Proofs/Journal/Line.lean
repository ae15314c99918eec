import ClusterConvergence.Journal.Line
import ClusterConvergence.Proofs.Json.Text

/-!
# Journal lines stay whole

Hosts, names and messages get into a journal line as they come, so they may hold anything.  Still
the line does not break and cannot be taken for another one: no control character stands in it but
the newline at its end, and it is read as one object whose members are the header and the fields,
each with the text that it was given.  Fields stand in the order of their names, and there is only
one way to put them in that order as long as those of one name keep theirs (`StablySorted.unique`).

Main statement: `line_stays_whole`.
-/

namespace ClusterConvergence

/-! ## Control characters -/

/-- A control character: below the blank, or one of those that begin with the delete character. -/
def IsControl (c : Char) : Prop :=
  c.toNat < 0x20 ∨ 0x7F ≤ c.toNat ∧ c.toNat ≤ 0x9F

instance : DecidablePred IsControl := fun c =>
  inferInstanceAs (Decidable (c.toNat < 0x20 ∨ 0x7F ≤ c.toNat ∧ c.toNat ≤ 0x9F))

/-- There is no control character in a text. -/
def Uncontrolled (cs : List Char) : Prop :=
  ∀ c ∈ cs, ¬ IsControl c

@[simp] theorem uncontrolled_nil : Uncontrolled [] :=
  List.forall_mem_nil _

@[simp] theorem uncontrolled_cons {c : Char} {cs : List Char} :
    Uncontrolled (c :: cs) ↔ ¬ IsControl c ∧ Uncontrolled cs :=
  List.forall_mem_cons

@[simp] theorem uncontrolled_append {as bs : List Char} :
    Uncontrolled (as ++ bs) ↔ Uncontrolled as ∧ Uncontrolled bs :=
  List.forall_mem_append

namespace QuoteStyle

theorem journal_hexed_iff {c : Char} : journal.hexed c = true ↔ IsControl c := by
  simp [journal, IsControl]

theorem faithful_journal : journal.Faithful where
  letter _ _ h := unescape?_of_commonLetter? h
  hexed c h := by
    rcases journal_hexed_iff.1 h with hlow | ⟨-, hhigh⟩
    · exact Nat.lt_trans hlow (by decide)
    · exact Nat.lt_of_le_of_lt hhigh (by decide)
  bare c hnone hbare := by
    have hcontrol : ¬ IsControl c := fun h => Bool.eq_false_iff.1 hbare (journal_hexed_iff.2 h)
    exact ⟨Nat.not_lt.1 fun hlow => hcontrol (Or.inl hlow), bare_of_commonLetter? hnone⟩

theorem not_isControl_hexDigit : ∀ n < 16, ¬ IsControl (hexDigit n) := by
  decide

theorem uncontrolled_hexQuad (n : Nat) : Uncontrolled (hexQuad n) := by
  have hdigit : ∀ m, ¬ IsControl (hexDigit (m % 16)) :=
    fun m => not_isControl_hexDigit _ (Nat.mod_lt _ (by decide))
  simp only [hexQuad, uncontrolled_cons, uncontrolled_nil, hdigit, not_false_eq_true, and_true]

theorem not_isControl_of_commonLetter? {c letter : Char} (h : commonLetter? c = some letter) :
    ¬ IsControl letter := by
  unfold commonLetter? at h
  split at h <;> cases h <;> decide

/-- A control character is not written as itself, whatever else is. -/
theorem uncontrolled_escape (c : Char) : Uncontrolled (journal.escape c) := by
  have hbackslash : ¬ IsControl '\\' := by decide
  rw [escape]
  split
  · next letter hletter => simp [hbackslash, not_isControl_of_commonLetter? hletter]
  · split
    · have hu : ¬ IsControl 'u' := by decide
      simp [hbackslash, hu, uncontrolled_hexQuad]
    · next hbare => simpa [journal_hexed_iff] using hbare

theorem uncontrolled_quote (s : String) : Uncontrolled (journal.quote s) := by
  have hquote : ¬ IsControl '"' := by decide
  have hescaped : Uncontrolled (s.toList.flatMap journal.escape) := by
    intro c hc
    obtain ⟨d, -, hmem⟩ := List.mem_flatMap.1 hc
    exact uncontrolled_escape d c hmem
  simp [quote, hquote, hescaped]

end QuoteStyle

/-! ## Fields in order -/

/-- The same fields in the order of their names, those of one name in their given order. -/
structure StablySorted (fields ordered : Fields) : Prop where
  perm : ordered.Perm fields
  ascending : ordered.Pairwise fun a b => a.1 ≤ b.1
  stable : ∀ name, ordered.filter (·.1 == name) = fields.filter (·.1 == name)

theorem stablySorted_sorted (fields : Fields) : StablySorted fields fields.sorted := by
  have htrans : ∀ a b c : String × String,
      decide (a.1 ≤ b.1) = true → decide (b.1 ≤ c.1) = true → decide (a.1 ≤ c.1) = true := by
    intro a b c hab hbc
    exact decide_eq_true (String.le_trans (of_decide_eq_true hab) (of_decide_eq_true hbc))
  have htotal : ∀ a b : String × String, (decide (a.1 ≤ b.1) || decide (b.1 ≤ a.1)) = true := by
    intro a b
    simpa using String.le_total a.1 b.1
  have hperm : fields.sorted.Perm fields := List.mergeSort_perm _ _
  refine ⟨hperm, ?_, fun name => ?_⟩
  · exact (List.pairwise_mergeSort htrans htotal fields).imp of_decide_eq_true
  · -- the fields of one name are in order already, so sorting does not move them past each other
    have hordered :
        (fields.filter (·.1 == name)).Pairwise fun a b => decide (a.1 ≤ b.1) = true := by
      refine List.pairwise_of_forall_mem_list fun a ha b hb => ?_
      have hname : a.1 = b.1 := by
        rw [beq_iff_eq.1 (List.mem_filter.1 ha).2, beq_iff_eq.1 (List.mem_filter.1 hb).2]
      exact decide_eq_true (hname ▸ String.le_refl _)
    have hsub : (fields.filter (·.1 == name)).Sublist fields.sorted :=
      List.sublist_mergeSort htrans htotal hordered List.filter_sublist
    have hfiltered := hsub.filter (·.1 == name)
    simp only [List.filter_filter, Bool.and_self] at hfiltered
    exact (hfiltered.eq_of_length (hperm.symm.filter _).length_eq).symm

theorem mem_iff_of_filter_name {a b : Fields}
    (h : ∀ name, a.filter (·.1 == name) = b.filter (·.1 == name)) (e : String × String) :
    e ∈ a ↔ e ∈ b := by
  have hname : e ∈ a.filter (·.1 == e.1) ↔ e ∈ b.filter (·.1 == e.1) := by rw [h]
  simpa [List.mem_filter] using hname

/-- Fields in the order of their names are known from the fields of each name. -/
theorem eq_of_filter_name {a b : Fields} (ha : a.Pairwise fun x y => x.1 ≤ y.1)
    (hb : b.Pairwise fun x y => x.1 ≤ y.1)
    (h : ∀ name, a.filter (·.1 == name) = b.filter (·.1 == name)) : a = b := by
  have hmem := mem_iff_of_filter_name h
  induction a generalizing b with
  | nil => exact (List.eq_nil_iff_forall_not_mem.2 fun e he => nomatch (hmem e).2 he).symm
  | cons e a ih =>
    cases b with
    | nil => exact nomatch (hmem e).1 List.mem_cons_self
    | cons f b =>
      rw [List.pairwise_cons] at ha hb
      -- neither of the two first names is behind the other one
      have hname : e.1 = f.1 := by
        have hle : e.1 ≤ f.1 := by
          rcases List.mem_cons.1 ((hmem f).2 List.mem_cons_self) with rfl | hf
          · exact String.le_refl _
          · exact ha.1 f hf
        have hge : f.1 ≤ e.1 := by
          rcases List.mem_cons.1 ((hmem e).1 List.mem_cons_self) with rfl | he
          · exact String.le_refl _
          · exact hb.1 e he
        exact String.le_antisymm hle hge
      have hfirst := h e.1
      simp only [List.filter_cons, hname, beq_self_eq_true, if_pos] at hfirst
      obtain ⟨rfl, hsame⟩ := List.cons.inj hfirst
      have hrest : ∀ name, a.filter (·.1 == name) = b.filter (·.1 == name) := by
        intro name
        by_cases hother : e.1 = name
        · rw [← hother, hsame]
        · simpa [hother] using h name
      rw [ih ha.2 hb.2 hrest (mem_iff_of_filter_name hrest)]

namespace StablySorted

variable {fields fields' a b : Fields}

/-- There is one way only to put fields in order. -/
theorem unique (ha : StablySorted fields a) (hb : StablySorted fields b) : a = b :=
  eq_of_filter_name ha.ascending hb.ascending fun name =>
    (ha.stable name).trans (hb.stable name).symm

/-- Where no name comes twice, it does not matter in which order the fields were given. -/
theorem of_perm (h : StablySorted fields a) (hperm : fields.Perm fields')
    (hnames : (fields.map (·.1)).Nodup) : StablySorted fields' a := by
  refine ⟨h.perm.trans hperm, h.ascending, fun name => ?_⟩
  rw [h.stable name]
  have hfiltered := hperm.filter (·.1 == name)
  have hname : ∀ e ∈ fields.filter (·.1 == name), e.1 = name :=
    fun e he => beq_iff_eq.1 (List.mem_filter.1 he).2
  have hnodup : ((fields.filter (·.1 == name)).map (·.1)).Nodup :=
    List.Nodup.sublist (List.filter_sublist.map Prod.fst) hnames
  -- there is at most one field of the name
  rcases hfields : fields.filter (·.1 == name) with - | ⟨e, - | ⟨f, rest⟩⟩ <;>
    rw [hfields] at hfiltered hname hnodup ⊢
  · exact hfiltered.nil_eq
  · exact hfiltered.singleton_eq
  · have hsame : e.1 = f.1 := (hname e (by simp)).trans (hname f (by simp)).symm
    simp [hsame] at hnodup

end StablySorted

/-! ## Reading a line -/

namespace Line

theorem members_eq (line : Line) (stamp : String) :
    line.members stamp =
      [("event", line.event), ("severity", line.severity.name), ("ts", stamp)] ++
        line.runId.toList.map (fun id => ("run_id", id)) ++ line.fields.sorted := by
  rw [members]
  cases line.runId <;> rfl

/-- Members that are all strings, as a reader sees them. -/
def stringDocs (members : Fields) : List (Option String × Doc) :=
  members.map fun member => (some member.1, .string member.2)

theorem memberChars_append (member : String × String) (tail : List Char) :
    memberChars member ++ tail =
      '"' :: (member.1.toList.flatMap QuoteStyle.journal.escape ++
        '"' :: ':' :: (QuoteStyle.journal.quote member.2 ++ tail)) := by
  simp [memberChars, QuoteStyle.quote]

/-- The members of a line are read one after the other; a member takes one step, and its value
another one. -/
theorem readMembers_members (member : String × String) (members : Fields) (steps : Nat)
    (rest : List Char) :
    readMembers (steps + members.length + 2)
        (List.intercalate [','] ((member :: members).map memberChars) ++ '}' :: rest) =
      (stringDocs (member :: members), some rest) := by
  induction members generalizing member with
  | nil =>
    rw [List.map_cons, List.map_nil, List.intercalate_singleton, memberChars_append]
    exact readMembers_last (readQuoted_quote QuoteStyle.faithful_journal member.1 _)
      (readDoc_quote QuoteStyle.faithful_journal member.2 _)
  | cons next members ih =>
    rw [List.map_cons, List.map_cons, List.intercalate_cons_cons, ← List.map_cons,
      List.append_assoc, List.append_assoc, List.singleton_append, memberChars_append]
    refine (readMembers_next (readQuoted_quote QuoteStyle.faithful_journal member.1 _)
      (readDoc_quote QuoteStyle.faithful_journal member.2 _)).trans ?_
    show (_ :: (readMembers (steps + members.length + 2) _).1,
      (readMembers (steps + members.length + 2) _).2) = _
    rw [ih next]
    rfl

theorem readDoc_members (member : String × String) (members : Fields) (steps : Nat)
    (rest : List Char) :
    readDoc (steps + members.length + 3)
        ('{' :: (List.intercalate [','] ((member :: members).map memberChars) ++ '}' :: rest)) =
      (.object (stringDocs (member :: members)), some rest) := by
  obtain ⟨cs, hcs⟩ : ∃ cs, List.intercalate [','] ((member :: members).map memberChars) ++
      '}' :: rest = '"' :: cs := by
    cases members with
    | nil =>
      rw [List.map_cons, List.map_nil, List.intercalate_singleton]
      exact ⟨_, memberChars_append member _⟩
    | cons next members =>
      rw [List.map_cons, List.map_cons, List.intercalate_cons_cons, List.append_assoc,
        List.append_assoc]
      exact ⟨_, memberChars_append member _⟩
  rw [hcs, readDoc_object, ← hcs, readMembers_members]

theorem length_le_intercalate (members : Fields) :
    members.length ≤ (List.intercalate [','] (members.map memberChars)).length := by
  induction members with
  | nil => exact Nat.zero_le _
  | cons member members ih =>
    cases members with
    | nil => simp [memberChars, QuoteStyle.quote]
    | cons next members =>
      rw [List.map_cons, List.map_cons, List.intercalate_cons_cons, ← List.map_cons]
      simp only [List.length_append, List.length_cons, List.length_nil] at ih ⊢
      omega

/-- A line is read as one object with its members in their order, and nothing is left but the
newline. -/
theorem read_render (line : Line) (stamp : String) :
    Doc.read (line.render stamp) = (.object (stringDocs (line.members stamp)), true) := by
  obtain ⟨member, members, hmembers⟩ : ∃ member members, line.members stamp = member :: members :=
    ⟨_, _, rfl⟩
  have hcount := length_le_intercalate (line.members stamp)
  rw [hmembers, List.length_cons] at hcount
  -- every member has a character of its own to pay for its step
  obtain ⟨steps, hsteps⟩ : ∃ steps, 2 * (line.chars stamp).length + 2 =
      steps + members.length + 3 := by
    refine ⟨2 * (line.chars stamp).length + 2 - (members.length + 3), ?_⟩
    rw [chars, hmembers]
    simp only [List.cons_append, List.length_cons, List.length_append]
    omega
  have hread := readDoc_members member members steps ['\n']
  rw [Doc.read, render, String.toList_ofList, hsteps, chars, hmembers, List.cons_append, hread]
  rfl

theorem uncontrolled_memberChars (member : String × String) :
    Uncontrolled (memberChars member) := by
  have hcolon : ¬ IsControl ':' := by decide
  simp [memberChars, hcolon, QuoteStyle.uncontrolled_quote]

theorem uncontrolled_intercalate (members : Fields) :
    Uncontrolled (List.intercalate [','] (members.map memberChars)) := by
  have hcomma : ¬ IsControl ',' := by decide
  induction members with
  | nil => exact uncontrolled_nil
  | cons member members ih =>
    cases members with
    | nil =>
      rw [List.map_cons, List.map_nil, List.intercalate_singleton]
      exact uncontrolled_memberChars member
    | cons next members =>
      rw [List.map_cons, List.map_cons, List.intercalate_cons_cons, ← List.map_cons,
        uncontrolled_append, uncontrolled_append, uncontrolled_cons]
      exact ⟨⟨uncontrolled_memberChars member, hcomma, uncontrolled_nil⟩, ih⟩

end Line

/-- Whatever is put into a line, it stays one line and one object.  There is no control character in
it but the newline at its end.  Read as a document, it is an object whose members are, in this
order, the event, the severity, the stamp, the run if there is one, and the fields in the order of
their names, those of one name in their given order; each of them has the text that it was given.
So fields with different names make up the same line in whatever order they are given. -/
theorem line_stays_whole (line : Line) (stamp : String) :
    (∃ body, (line.render stamp).toList = body ++ ['\n'] ∧ ∀ c ∈ body, ¬ IsControl c) ∧
    (∃ ordered, StablySorted line.fields ordered ∧
      Doc.read (line.render stamp) = (.object (Line.stringDocs
        ([("event", line.event), ("severity", line.severity.name), ("ts", stamp)] ++
          line.runId.toList.map (fun id => ("run_id", id)) ++ ordered)), true)) ∧
    ∀ fields : Fields, line.fields.Perm fields → (line.fields.map (·.1)).Nodup →
      { line with fields := fields }.render stamp = line.render stamp := by
  refine ⟨⟨'{' :: List.intercalate [','] ((line.members stamp).map Line.memberChars) ++ ['}'],
    ?_, ?_⟩, ⟨line.fields.sorted, stablySorted_sorted line.fields, ?_⟩, ?_⟩
  · rw [Line.render, String.toList_ofList, Line.chars]
    simp
  · have hbraces : ¬ IsControl '{' ∧ ¬ IsControl '}' := by decide
    have hbody := Line.uncontrolled_intercalate (line.members stamp)
    show Uncontrolled _
    simp [hbraces, hbody]
  · rw [Line.read_render, Line.members_eq]
  · intro fields hperm hnames
    have hsorted : fields.sorted = line.fields.sorted :=
      (stablySorted_sorted fields).unique
        ((stablySorted_sorted line.fields).of_perm hperm hnames)
    rw [Line.render, Line.render, Line.chars, Line.chars, Line.members_eq, Line.members_eq, hsorted]

end ClusterConvergence
