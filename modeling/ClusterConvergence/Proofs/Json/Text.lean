import ClusterConvergence.Proofs.Json.Number

/-!
# Reading back documents

What is written of a value is read back as the same value, if its numbers are.  The reader counts
its steps, and it never needs more than two for each character; what follows a value is left to
whoever reads on.  The reader is described first for a single step, and then along the value.

Main statements: `Json.read_render`, that the whole text of a value is read as that value, and
`Json.unbroken_chars`, that the text is on one line.
-/

namespace ClusterConvergence

/-! ## One step of the reader -/

section OneStep

variable {fuel : Nat} {c : Char} {cs after rest : List Char} {doc : Doc} {name : Option String}

theorem skipGap_cons (cs : List Char) (h : isGap c = false) : skipGap (c :: cs) = c :: cs := by
  rw [skipGap, List.dropWhile_cons_of_neg (by simp [h])]

/-- A number begins with its sign or with a digit. -/
theorem exists_head_of_readNumber {result : Doc × List Char} (h : readNumber cs = some result) :
    ∃ c tail, cs = c :: tail ∧ (c = '-' ∨ c.isDigit = true) := by
  cases cs with
  | nil => cases h
  | cons c tail =>
    refine ⟨c, tail, rfl, Decidable.byContradiction fun hnot => ?_⟩
    obtain ⟨hsign, hdigit⟩ := not_or.1 hnot
    have hnone : spanDigits (c :: tail) = ([], c :: tail) := by
      simp [spanDigits, hdigit]
    unfold readNumber at h
    split at h
    next negative cs hsplit =>
    split at hsplit
    · next heq => exact hsign (List.cons.inj heq).1
    · cases hsplit
      rw [hnone] at h
      cases h

theorem isGap_of_sign_or_digit (h : c = '-' ∨ c.isDigit = true) : isGap c = false := by
  refine Bool.eq_false_iff.2 fun hgap => ?_
  simp only [isGap, Bool.or_eq_true, decide_eq_true_eq] at hgap
  rcases hgap with ((rfl | rfl) | rfl) | rfl <;> revert h <;> decide

/-- A text that is read as a number is read as nothing else. -/
theorem readDoc_of_readNumber (h : readNumber cs = some (doc, rest)) :
    readDoc (fuel + 1) cs = (doc, some rest) := by
  obtain ⟨c, tail, rfl, hc⟩ := exists_head_of_readNumber h
  have hother : ∀ {d ds}, c :: tail = d :: ds → ¬ (d = '-' ∨ d.isDigit = true) → False := by
    rintro d ds ⟨⟩ hd
    exact hd hc
  unfold readDoc
  rw [skipGap_cons tail (isGap_of_sign_or_digit hc)]
  split
  case h_7 => rw [h]
  -- nothing else that is read begins like a number
  all_goals next heq => exact (hother heq (by decide)).elim

theorem readDoc_quote {style : QuoteStyle} (h : style.Faithful) (s : String) (rest : List Char) :
    readDoc (fuel + 1) (style.quote s ++ rest) = (.string s, some rest) := by
  rw [QuoteStyle.quote, List.cons_append, List.cons_append, List.append_assoc, readDoc,
    skipGap_cons _ (by decide)]
  simp only [List.cons_append, List.nil_append, readQuoted_quote h]

/-- An array that does not close at once is read item by item. -/
theorem readDoc_array (hgap : isGap c = false) (hc : c ≠ ']') :
    readDoc (fuel + 1) ('[' :: c :: cs) =
      (.array (readItems fuel (c :: cs)).1, (readItems fuel (c :: cs)).2) := by
  rw [readDoc, skipGap_cons _ (by decide)]
  simp only [skipGap_cons _ hgap]
  split
  · next heq => exact absurd (List.cons.inj heq).1 hc
  · rfl

theorem readItems_last (hitem : readDoc fuel cs = (doc, some (']' :: rest))) :
    readItems (fuel + 1) cs = ([doc], some rest) := by
  rw [readItems, hitem]
  simp only [skipGap_cons rest (c := ']') (by decide)]

theorem readItems_next (hitem : readDoc fuel cs = (doc, some (',' :: rest))) :
    readItems (fuel + 1) cs = (doc :: (readItems fuel rest).1, (readItems fuel rest).2) := by
  rw [readItems, hitem]
  simp only [skipGap_cons rest (c := ',') (by decide)]

/-- An object that does not close at once is read member by member. -/
theorem readDoc_object :
    readDoc (fuel + 1) ('{' :: '"' :: cs) =
      (.object (readMembers fuel ('"' :: cs)).1, (readMembers fuel ('"' :: cs)).2) := by
  rw [readDoc, skipGap_cons _ (by decide)]
  simp only [skipGap_cons cs (c := '"') (by decide)]
  rfl

theorem readMembers_last (hname : readQuoted {} cs = some (name, ':' :: after))
    (hvalue : readDoc fuel after = (doc, some ('}' :: rest))) :
    readMembers (fuel + 1) ('"' :: cs) = ([(name, doc)], some rest) := by
  rw [readMembers, skipGap_cons _ (by decide)]
  simp only [hname, skipGap_cons after (c := ':') (by decide), hvalue,
    skipGap_cons rest (c := '}') (by decide)]

theorem readMembers_next (hname : readQuoted {} cs = some (name, ':' :: after))
    (hvalue : readDoc fuel after = (doc, some (',' :: rest))) :
    readMembers (fuel + 1) ('"' :: cs) =
      ((name, doc) :: (readMembers fuel rest).1, (readMembers fuel rest).2) := by
  rw [readMembers, skipGap_cons _ (by decide)]
  simp only [hname, skipGap_cons after (c := ':') (by decide), hvalue,
    skipGap_cons rest (c := ',') (by decide)]

end OneStep

namespace Json

/-! ## Along a value -/

mutual

/-- A value whose numbers are read back from their text. -/
def Legible : Json → Prop
  | .integer i => -2 ^ 63 ≤ i ∧ i < 2 ^ 64
  | .real x => Restorable x
  | .array items => LegibleItems items
  | .object members => LegibleMembers members
  | _ => True

/-- Every item is legible. -/
def LegibleItems : List Json → Prop
  | [] => True
  | item :: items => item.Legible ∧ LegibleItems items

/-- Every member is legible. -/
def LegibleMembers : List (String × Json) → Prop
  | [] => True
  | (_, value) :: members => value.Legible ∧ LegibleMembers members

end

theorem legibleItems_iff {items : List Json} : LegibleItems items ↔ ∀ j ∈ items, j.Legible := by
  induction items with
  | nil => exact ⟨fun _ => List.forall_mem_nil _, fun _ => trivial⟩
  | cons item items ih => rw [LegibleItems, ih, List.forall_mem_cons]

theorem legibleMembers_iff {members : List (String × Json)} :
    LegibleMembers members ↔ ∀ e ∈ members, e.2.Legible := by
  induction members with
  | nil => exact ⟨fun _ => List.forall_mem_nil _, fun _ => trivial⟩
  | cons e members ih => rw [LegibleMembers, ih, List.forall_mem_cons]

theorem legible_member? {α : Type} {name : String} {o : Option α} {encode : α → Json}
    (h : ∀ a, (encode a).Legible) : ∀ e ∈ member? name (o.map encode), e.2.Legible := by
  cases o with
  | none => exact List.forall_mem_nil _
  | some a => exact List.forall_mem_singleton.2 (h a)

/-- The text of a value does not begin with a gap, and it does not close anything. -/
theorem exists_head_chars {j : Json} (h : j.Legible) :
    ∃ c cs, j.chars = c :: cs ∧ isGap c = false ∧ c ≠ ']' := by
  have hnumber : ∀ {doc}, readNumber j.chars = some (doc, []) →
      ∃ c cs, j.chars = c :: cs ∧ isGap c = false ∧ c ≠ ']' := by
    intro doc hread
    obtain ⟨c, cs, hcs, hc⟩ := exists_head_of_readNumber hread
    refine ⟨c, cs, hcs, isGap_of_sign_or_digit hc, ?_⟩
    rintro rfl
    revert hc
    decide
  cases j with
  | integer i =>
    have hread := readNumber_integerText h.1 h.2 delimited_nil
    rw [List.append_nil] at hread
    exact hnumber hread
  | real x =>
    have hread := h [] delimited_nil
    rw [List.append_nil] at hread
    exact hnumber hread
  | bool b => cases b <;> exact ⟨_, _, rfl, by decide, by decide⟩
  | array items => cases items <;> exact ⟨_, _, rfl, by decide, by decide⟩
  | object members => cases members <;> exact ⟨_, _, rfl, by decide, by decide⟩
  | _ => exact ⟨_, _, rfl, by decide, by decide⟩

theorem memberChars_append (name : String) (value : Json) (tail : List Char) :
    memberChars (name, value) ++ tail =
      '"' :: (name.toList.flatMap QuoteStyle.document.escape ++
        '"' :: ':' :: (value.chars ++ tail)) := by
  simp [memberChars, QuoteStyle.quote]

mutual

/-- Reading a value takes at most two steps for each character, and stops where the value ends. -/
theorem readDoc_chars : ∀ (j : Json) (fuel : Nat) (rest : List Char), j.Legible →
    2 * j.chars.length ≤ fuel + 1 → Delimited rest →
    readDoc (fuel + 1) (j.chars ++ rest) = (j.toDoc, some rest)
  | .null, fuel, rest, _, _, _ => by
    rw [chars, List.cons_append, readDoc, skipGap_cons _ (by decide)]
    rfl
  | .bool true, fuel, rest, _, _, _ => by
    rw [chars, List.cons_append, readDoc, skipGap_cons _ (by decide)]
    rfl
  | .bool false, fuel, rest, _, _, _ => by
    rw [chars, List.cons_append, readDoc, skipGap_cons _ (by decide)]
    rfl
  | .integer i, _, _, hlegible, _, hrest =>
    readDoc_of_readNumber (readNumber_integerText hlegible.1 hlegible.2 hrest)
  | .real _, _, rest, hlegible, _, hrest => readDoc_of_readNumber (hlegible rest hrest)
  | .string s, _, rest, _, _, _ => readDoc_quote QuoteStyle.faithful_document s rest
  | .array [], fuel, rest, _, _, _ => by
    rw [chars, List.cons_append, readDoc, skipGap_cons _ (by decide)]
    rfl
  | .array (item :: items), fuel, rest, hlegible, hfuel, _ => by
    obtain ⟨c, cs, hhead, hgap, hc⟩ := exists_head_chars hlegible.1
    have htext : (Json.array (item :: items)).chars ++ rest =
        '[' :: (item.chars ++ (itemsChars items ++ ']' :: rest)) := by simp [chars]
    have hlength : (Json.array (item :: items)).chars.length =
        item.chars.length + (itemsChars items).length + 2 := by simp [chars, Nat.add_assoc]
    -- the brackets pay for the steps from here to the first item
    obtain ⟨steps, rfl⟩ : ∃ steps, fuel = steps + 2 := ⟨fuel - 2, by omega⟩
    have hitems := readItems_chars item items steps rest hlegible (by omega)
    rw [hhead, List.cons_append] at hitems
    rw [htext, hhead, List.cons_append, readDoc_array hgap hc, hitems]
    rfl
  | .object [], fuel, rest, _, _, _ => by
    rw [chars, List.cons_append, readDoc, skipGap_cons _ (by decide)]
    rfl
  | .object ((name, value) :: members), fuel, rest, hlegible, hfuel, _ => by
    have htext : (Json.object ((name, value) :: members)).chars ++ rest =
        '{' :: (memberChars (name, value) ++ (membersChars members ++ '}' :: rest)) := by
      simp [chars]
    have hlength : (Json.object ((name, value) :: members)).chars.length =
        (memberChars (name, value)).length + (membersChars members).length + 2 := by
      simp [chars, Nat.add_assoc]
    obtain ⟨steps, rfl⟩ : ∃ steps, fuel = steps + 2 := ⟨fuel - 2, by omega⟩
    have hmembers := readMembers_chars name value members steps rest hlegible (by omega)
    rw [memberChars_append] at hmembers
    rw [htext, memberChars_append, readDoc_object, hmembers]
    rfl
termination_by j => sizeOf j

theorem readItems_chars : ∀ (item : Json) (items : List Json) (fuel : Nat) (rest : List Char),
    LegibleItems (item :: items) → 2 * (item.chars.length + (itemsChars items).length) ≤ fuel + 1 →
    readItems (fuel + 2) (item.chars ++ (itemsChars items ++ ']' :: rest)) =
      (itemDocs (item :: items), some rest)
  | item, [], fuel, rest, hlegible, hfuel => by
    have hlength : (itemsChars []).length = 0 := rfl
    exact readItems_last (readDoc_chars item fuel (']' :: rest) hlegible.1 (by omega)
      (delimited_cons.2 (Or.inr (Or.inl rfl))))
  | item, next :: items, fuel, rest, hlegible, hfuel => by
    -- the comma pays for the step to the next item
    have hlength : (itemsChars (next :: items)).length =
        next.chars.length + (itemsChars items).length + 1 := by simp [itemsChars]
    obtain ⟨steps, rfl⟩ : ∃ steps, fuel = steps + 1 := ⟨fuel - 1, by omega⟩
    have hitems := readItems_chars next items steps rest hlegible.2 (by omega)
    rw [itemsChars, List.cons_append, List.cons_append, List.append_assoc,
      readItems_next (readDoc_chars item _ _ hlegible.1 (by omega) (delimited_cons.2 (Or.inl rfl))),
      hitems]
    rfl
termination_by item items => sizeOf item + sizeOf items + 1

theorem readMembers_chars : ∀ (name : String) (value : Json) (members : List (String × Json))
    (fuel : Nat) (rest : List Char), LegibleMembers ((name, value) :: members) →
    2 * ((memberChars (name, value)).length + (membersChars members).length) ≤ fuel + 1 →
    readMembers (fuel + 2) (memberChars (name, value) ++ (membersChars members ++ '}' :: rest)) =
      (memberDocs ((name, value) :: members), some rest)
  | name, value, [], fuel, rest, hlegible, hfuel => by
    have hlength : value.chars.length ≤ (memberChars (name, value)).length := by
      simp [memberChars]
      omega
    have hvalue := readDoc_chars value fuel ('}' :: rest) hlegible.1 (by omega)
      (delimited_cons.2 (Or.inr (Or.inr rfl)))
    rw [memberChars_append]
    exact readMembers_last (readQuoted_quote QuoteStyle.faithful_document name _) hvalue
  | name, value, (name', value') :: members, fuel, rest, hlegible, hfuel => by
    have hlength : value.chars.length ≤ (memberChars (name, value)).length := by
      simp [memberChars]
      omega
    have hlength' : (membersChars ((name', value') :: members)).length =
        (memberChars (name', value')).length + (membersChars members).length + 1 := by
      simp [membersChars]
    obtain ⟨steps, rfl⟩ : ∃ steps, fuel = steps + 1 := ⟨fuel - 1, by omega⟩
    have hmembers := readMembers_chars name' value' members steps rest hlegible.2 (by omega)
    rw [membersChars, List.cons_append, List.cons_append, List.append_assoc, memberChars_append,
      readMembers_next (readQuoted_quote QuoteStyle.faithful_document name _)
        (readDoc_chars value _ _ hlegible.1 (by omega) (delimited_cons.2 (Or.inl rfl))),
      hmembers]
    rfl
termination_by _ value members => sizeOf value + sizeOf members + 1

end

/-- The text of a value is read as that value, and nothing is left of it. -/
theorem read_render {j : Json} (h : j.Legible) : Doc.read j.render = (j.toDoc, true) := by
  have hread := readDoc_chars j (2 * j.chars.length + 1) [] h (by omega) delimited_nil
  rw [List.append_nil] at hread
  rw [Doc.read, render, String.toList_ofList]
  simp only [hread]
  rfl

/-! ## One line -/

mutual

theorem unbroken_chars : ∀ j : Json, Unbroken j.chars
  | .null | .bool true | .bool false | .array [] | .object [] => by
    simp [chars]
  | .integer i => unbroken_integerText i
  | .real x => unbroken_floatText x
  | .string s => QuoteStyle.faithful_document.unbroken_quote s
  | .array (item :: items) => by
    simp [chars, unbroken_chars item, unbroken_itemsChars items]
  | .object (member :: members) => by
    simp [chars, unbroken_memberChars member, unbroken_membersChars members]

theorem unbroken_itemsChars : ∀ items : List Json, Unbroken (itemsChars items)
  | [] => unbroken_nil
  | item :: items => by simp [itemsChars, unbroken_chars item, unbroken_itemsChars items]

theorem unbroken_memberChars : ∀ member : String × Json, Unbroken (memberChars member)
  | (name, value) => by
    simp [memberChars, QuoteStyle.faithful_document.unbroken_quote name, unbroken_chars value]

theorem unbroken_membersChars : ∀ members : List (String × Json), Unbroken (membersChars members)
  | [] => unbroken_nil
  | member :: members => by
    simp [membersChars, unbroken_memberChars member, unbroken_membersChars members]

end

/-! ## As a value again -/

mutual

/-- How deep arrays and objects are nested. -/
def height : Json → Nat
  | .array items => heightItems items + 1
  | .object members => heightMembers members + 1
  | _ => 0

/-- The greatest height of an item. -/
def heightItems : List Json → Nat
  | [] => 0
  | item :: items => max item.height (heightItems items)

/-- The greatest height of a member. -/
def heightMembers : List (String × Json) → Nat
  | [] => 0
  | (_, value) :: members => max value.height (heightMembers members)

end

theorem heightItems_le_iff {items : List Json} {n : Nat} :
    heightItems items ≤ n ↔ ∀ j ∈ items, j.height ≤ n := by
  induction items with
  | nil => exact ⟨fun _ => List.forall_mem_nil _, fun _ => Nat.zero_le n⟩
  | cons item items ih => rw [heightItems, Nat.max_le, ih, List.forall_mem_cons]

theorem heightMembers_le_iff {members : List (String × Json)} {n : Nat} :
    heightMembers members ≤ n ↔ ∀ e ∈ members, e.2.height ≤ n := by
  induction members with
  | nil => exact ⟨fun _ => List.forall_mem_nil _, fun _ => Nat.zero_le n⟩
  | cons e members ih => rw [heightMembers, Nat.max_le, ih, List.forall_mem_cons]

mutual

/-- Within the limit on the depth, a value is taken out of a document as it is. -/
theorem value?_toDoc : ∀ (j : Json) {depth : Nat}, j.height ≤ depth → j.toDoc.value? depth = some j
  | .null, _, _ | .bool _, _, _ | .integer _, _, _ | .real _, _, _ | .string _, _, _ => by
    rw [toDoc, Doc.value?]
  | .array items, depth, h => by
    obtain ⟨depth, rfl⟩ : ∃ d, depth = d + 1 := ⟨depth - 1, by rw [height] at h; omega⟩
    rw [toDoc, Doc.value?, itemValues?_itemDocs items (by rw [height] at h; omega)]
    rfl
  | .object members, depth, h => by
    obtain ⟨depth, rfl⟩ : ∃ d, depth = d + 1 := ⟨depth - 1, by rw [height] at h; omega⟩
    rw [toDoc, Doc.value?, memberValues?_memberDocs members (by rw [height] at h; omega)]
    rfl

theorem itemValues?_itemDocs : ∀ (items : List Json) {depth : Nat}, heightItems items ≤ depth →
    Doc.itemValues? depth (itemDocs items) = some items
  | [], _, _ => rfl
  | item :: items, depth, h => by
    rw [heightItems, Nat.max_le] at h
    rw [itemDocs, Doc.itemValues?, value?_toDoc item h.1, itemValues?_itemDocs items h.2]

theorem memberValues?_memberDocs : ∀ (members : List (String × Json)) {depth : Nat},
    heightMembers members ≤ depth → Doc.memberValues? depth (memberDocs members) = some members
  | [], _, _ => rfl
  | (name, value) :: members, depth, h => by
    rw [heightMembers, Nat.max_le] at h
    simp only [memberDocs, Doc.memberValues?, value?_toDoc value h.1,
      memberValues?_memberDocs members h.2]

end

end Json

end ClusterConvergence
