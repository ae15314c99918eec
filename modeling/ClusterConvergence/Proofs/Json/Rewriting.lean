import ClusterConvergence.Proofs.Activity
import ClusterConvergence.Proofs.Node.Inventory

/-!
# Rewriting a part of a document

A record is written as an object or as an array of its fields, so a field of it is found by its name
or by its place.  What is done to that field, or to each item of an array, can be done to a document
as it was read or to the value that is taken out of it: a rewriting comes in two forms that agree
(`Rewrites`), and so do the rewritings that are built from it (`Rewrites.eachItem`,
`Rewrites.atField`).  Taking a value out of a document and putting its members in order therefore
commute with a rewriting, and so does a decoder whose parts do (`Decoder.list_eachItem`).
-/

namespace ClusterConvergence

open Decoder

/-! ## Parts of a document -/

namespace Doc

/-- The items of an array. -/
def items : Doc → List Doc
  | .array items => items
  | _ => []

/-- Whether a document is an array. -/
def isArray : Doc → Bool
  | .array _ => true
  | _ => false

/-- What a record holds in the field of this name and at this place.  An object may hold several
members of one name, an array at most one item at a place. -/
def inField (name : String) (place : Nat) : Doc → List Doc
  | .object members => (members.filter (·.1 == some name)).map (·.2)
  | .array items => items[place]?.toList
  | _ => []

/-- Rewrite each item of an array. -/
def eachItem (f : Doc → Doc) : Doc → Doc
  | .array items => .array (items.map f)
  | doc => doc

/-- Rewrite what a record holds in a field. -/
def atField (name : String) (place : Nat) (f : Doc → Doc) : Doc → Doc
  | .object members =>
    .object (members.map fun e => (e.1, if e.1 = some name then f e.2 else e.2))
  | .array items => .array (items.modify place f)
  | doc => doc

end Doc

namespace Json

/-- Rewrite each item of an array. -/
def eachItem (g : Json → Json) : Json → Json
  | .array items => .array (items.map g)
  | j => j

/-- Rewrite what a record holds in a field. -/
def atField (name : String) (place : Nat) (g : Json → Json) : Json → Json
  | .object members => .object (members.map fun e => (e.1, if e.1 = name then g e.2 else e.2))
  | .array items => .array (items.modify place g)
  | j => j

/-! ## Values taken out of documents -/

theorem itemDocs_eq_map (items : List Json) : itemDocs items = items.map toDoc := by
  induction items with
  | nil => rfl
  | cons j items ih => rw [itemDocs, ih, List.map_cons]

theorem memberDocs_eq_map (members : List (String × Json)) :
    memberDocs members = members.map fun e => (some e.1, e.2.toDoc) := by
  induction members with
  | nil => rfl
  | cons e members ih => rw [memberDocs, ih, List.map_cons]

theorem sorted_object_eq (members : List (String × Json)) :
    (object members).sorted =
      .object (Dict.ofList (members.map fun e => (e.1, e.2.sorted))).entries := by
  rw [sorted, sortedMembers_eq]
  rfl

theorem sortedItems_eq_map (items : List Json) : sortedItems items = items.map sorted := by
  induction items with
  | nil => rw [sortedItems, List.map_nil]
  | cons j items ih => rw [sortedItems, ih, List.map_cons]

end Json

namespace Doc

theorem itemValues?_cons_eq_some_iff {depth : Nat} {item : Doc} {items : List Doc}
    {js : List Json} :
    itemValues? depth (item :: items) = some js ↔
      ∃ j rest, item.value? depth = some j ∧ itemValues? depth items = some rest ∧
        js = j :: rest := by
  rw [itemValues?]
  rcases item.value? depth with - | j
  · simp
  · rcases itemValues? depth items with - | rest
    · simp
    · simp [eq_comm]

theorem memberValues?_cons_eq_some_iff {depth : Nat} {name : Option String} {doc : Doc}
    {members : List (Option String × Doc)} {js : List (String × Json)} :
    memberValues? depth ((name, doc) :: members) = some js ↔
      ∃ key j rest, name = some key ∧ doc.value? depth = some j ∧
        memberValues? depth members = some rest ∧ js = (key, j) :: rest := by
  rcases name with - | key
  · simp [memberValues?]
  · rcases hdoc : doc.value? depth with - | j
    · simp [memberValues?, hdoc]
    · rcases hmembers : memberValues? depth members with - | rest
      · simp [memberValues?, hmembers]
      · simp [memberValues?, hdoc, hmembers, eq_comm]

mutual

/-- A value is taken only out of the document that is its view. -/
theorem eq_toDoc_of_value? : ∀ (doc : Doc) {depth : Nat} {j : Json},
    doc.value? depth = some j → doc = j.toDoc
  | .null, _, _, h | .bool _, _, _, h | .integer _, _, _, h | .real _, _, _, h
  | .string _, _, _, h => by
    rw [value?, Option.some.injEq] at h
    rw [← h, Json.toDoc]
  | .oversized, _, _, h | .unpaired, _, _, h | .broken, _, _, h => by
    rw [value?] at h
    cases h
  | .array items, 0, _, h => by
    rw [value?] at h
    cases h
  | .array items, depth + 1, _, h => by
    rw [value?] at h
    obtain ⟨js, hjs, rfl⟩ := Option.map_eq_some_iff.1 h
    rw [Json.toDoc, eq_itemDocs_of_itemValues? items hjs]
  | .object members, 0, _, h => by
    rw [value?] at h
    cases h
  | .object members, depth + 1, _, h => by
    rw [value?] at h
    obtain ⟨js, hjs, rfl⟩ := Option.map_eq_some_iff.1 h
    rw [Json.toDoc, eq_memberDocs_of_memberValues? members hjs]

theorem eq_itemDocs_of_itemValues? : ∀ (items : List Doc) {depth : Nat} {js : List Json},
    itemValues? depth items = some js → items = Json.itemDocs js
  | [], _, _, h => by
    rw [itemValues?, Option.some.injEq] at h
    rw [← h, Json.itemDocs]
  | item :: items, _, _, h => by
    obtain ⟨j, rest, hj, hrest, rfl⟩ := itemValues?_cons_eq_some_iff.1 h
    rw [Json.itemDocs, ← eq_toDoc_of_value? item hj, ← eq_itemDocs_of_itemValues? items hrest]

theorem eq_memberDocs_of_memberValues? : ∀ (members : List (Option String × Doc)) {depth : Nat}
    {js : List (String × Json)}, memberValues? depth members = some js →
      members = Json.memberDocs js
  | [], _, _, h => by
    rw [memberValues?, Option.some.injEq] at h
    rw [← h, Json.memberDocs]
  | (name, doc) :: members, _, _, h => by
    obtain ⟨key, j, rest, rfl, hj, hrest, rfl⟩ := memberValues?_cons_eq_some_iff.1 h
    rw [Json.memberDocs, ← eq_toDoc_of_value? doc hj,
      ← eq_memberDocs_of_memberValues? members hrest]

end

/-- A change that leaves the value of a document alone does not show when the value is taken out. -/
theorem value?_map_eq_self {g : Json → Json} {doc : Doc} (h : ∀ j, doc = j.toDoc → g j = j)
    (depth : Nat) : (doc.value? depth).map g = doc.value? depth := by
  rcases hvalue : doc.value? depth with - | j
  · rfl
  · exact congrArg some (h j (eq_toDoc_of_value? doc hvalue))

end Doc

/-! ## Rewritings -/

/-- A rewriting of documents, and the same rewriting of values. -/
structure Rewrites (f : Doc → Doc) (g : Json → Json) : Prop where
  value?_eq : ∀ doc depth, (f doc).value? depth = (doc.value? depth).map g
  sorted_eq : ∀ j, (g j).sorted = g j.sorted
  toDoc_eq : ∀ j, (g j).toDoc = f j.toDoc

namespace Rewrites

variable {f : Doc → Doc} {g : Json → Json}

/-! ### The items of an array -/

theorem itemValues?_map (h : Rewrites f g) (depth : Nat) (items : List Doc) :
    Doc.itemValues? depth (items.map f) = (Doc.itemValues? depth items).map (List.map g) := by
  induction items with
  | nil => rfl
  | cons item items ih =>
    rw [List.map_cons, Doc.itemValues?, h.value?_eq, ih, Doc.itemValues?]
    rcases item.value? depth with - | j
    · rfl
    · rcases Doc.itemValues? depth items <;> rfl

theorem eachItem (h : Rewrites f g) : Rewrites (Doc.eachItem f) (Json.eachItem g) where
  value?_eq doc depth := by
    cases doc with
    | array items =>
      cases depth with
      | zero => rfl
      | succ depth =>
        rw [Doc.eachItem, Doc.value?, h.itemValues?_map, Doc.value?, Option.map_map,
          Option.map_map]
        rfl
    | _ =>
      refine (Doc.value?_map_eq_self ?_ depth).symm
      intro j hj
      cases j <;> first | rfl | cases hj
  sorted_eq j := by
    cases j with
    | array items =>
      rw [Json.eachItem, Json.sorted, Json.sorted, Json.eachItem, Json.sortedItems_eq_map,
        Json.sortedItems_eq_map, List.map_map, List.map_map]
      exact congrArg Json.array (List.map_congr_left fun item _ => h.sorted_eq item)
    | _ => simp only [Json.eachItem, Json.sorted]
  toDoc_eq j := by
    cases j with
    | array items =>
      rw [Json.eachItem, Json.toDoc, Json.toDoc, Doc.eachItem, Json.itemDocs_eq_map,
        Json.itemDocs_eq_map, List.map_map, List.map_map]
      exact congrArg Doc.array (List.map_congr_left fun item _ => h.toDoc_eq item)
    | _ => rfl

/-! ### A field of a record -/

theorem map_modify {α β : Type} {φ : α → β} {f : β → β} {g : α → α} (h : ∀ a, φ (g a) = f (φ a))
    (l : List α) (place : Nat) : (l.modify place g).map φ = (l.map φ).modify place f := by
  induction l generalizing place with
  | nil => cases place <;> rfl
  | cons a l ih =>
    cases place with
    | zero => exact congrArg (· :: l.map φ) (h a)
    | succ place => exact congrArg (φ a :: ·) (ih place)

theorem itemValues?_modify (h : Rewrites f g) (depth : Nat) (items : List Doc) (place : Nat) :
    Doc.itemValues? depth (items.modify place f) =
      (Doc.itemValues? depth items).map fun js => js.modify place g := by
  induction items generalizing place with
  | nil => cases place <;> rfl
  | cons item items ih =>
    cases place with
    | zero =>
      rw [List.modify_zero_cons, Doc.itemValues?, h.value?_eq, Doc.itemValues?]
      rcases item.value? depth with - | j
      · rfl
      · rcases Doc.itemValues? depth items <;> rfl
    | succ place =>
      rw [List.modify_succ_cons, Doc.itemValues?, ih, Doc.itemValues?]
      rcases item.value? depth with - | j
      · rfl
      · rcases Doc.itemValues? depth items <;> rfl

theorem memberValues?_map (h : Rewrites f g) (depth : Nat) (name : String)
    (members : List (Option String × Doc)) :
    Doc.memberValues? depth
        (members.map fun e => (e.1, if e.1 = some name then f e.2 else e.2)) =
      (Doc.memberValues? depth members).map
        (List.map fun e => (e.1, if e.1 = name then g e.2 else e.2)) := by
  induction members with
  | nil => rfl
  | cons e members ih =>
    obtain ⟨key, doc⟩ := e
    rcases key with - | key
    · rfl
    · have hvalue : (if key = name then f doc else doc).value? depth =
          (doc.value? depth).map fun j => if key = name then g j else j := by
        by_cases hkey : key = name
        · simp only [hkey, if_true, h.value?_eq]
        · simp only [hkey, if_false, Option.map_id']
      rcases hdoc : doc.value? depth with - | j <;>
        rcases hmembers : Doc.memberValues? depth members with - | rest <;>
          simp [Doc.memberValues?, hvalue, hdoc, ih, hmembers]

theorem atField (h : Rewrites f g) (name : String) (place : Nat) :
    Rewrites (Doc.atField name place f) (Json.atField name place g) where
  value?_eq doc depth := by
    cases doc with
    | array items =>
      cases depth with
      | zero => rfl
      | succ depth =>
        rw [Doc.atField, Doc.value?, h.itemValues?_modify, Doc.value?, Option.map_map,
          Option.map_map]
        rfl
    | object members =>
      cases depth with
      | zero => rfl
      | succ depth =>
        rw [Doc.atField, Doc.value?, h.memberValues?_map, Doc.value?, Option.map_map,
          Option.map_map]
        rfl
    | _ => rfl
  sorted_eq j := by
    cases j with
    | array items =>
      rw [Json.atField, Json.sorted, Json.sorted, Json.atField, Json.sortedItems_eq_map,
        Json.sortedItems_eq_map]
      exact congrArg Json.array (map_modify h.sorted_eq items place)
    | object members =>
      rw [Json.atField, Json.sorted_object_eq, Json.sorted_object_eq, Json.atField,
        ← Dict.entries_ofList_map fun key j => if key = name then g j else j, List.map_map,
        List.map_map]
      refine congrArg (fun l => Json.object (Dict.ofList l).entries) (List.map_congr_left ?_)
      intro e _
      refine Prod.ext rfl ?_
      show (if e.1 = name then g e.2 else e.2).sorted = if e.1 = name then g e.2.sorted else _
      split
      · exact h.sorted_eq e.2
      · rfl
    | _ => simp only [Json.atField, Json.sorted]
  toDoc_eq j := by
    cases j with
    | array items =>
      rw [Json.atField, Json.toDoc, Json.toDoc, Doc.atField, Json.itemDocs_eq_map,
        Json.itemDocs_eq_map]
      exact congrArg Doc.array (map_modify h.toDoc_eq items place)
    | object members =>
      rw [Json.atField, Json.toDoc, Json.toDoc, Doc.atField, Json.memberDocs_eq_map,
        Json.memberDocs_eq_map, List.map_map, List.map_map]
      refine congrArg Doc.object (List.map_congr_left fun e _ => Prod.ext rfl ?_)
      show (if e.1 = name then g e.2 else e.2).toDoc =
        if some e.1 = some name then f e.2.toDoc else e.2.toDoc
      by_cases hname : e.1 = name
      · simp only [hname, if_true, h.toDoc_eq]
      · simp only [Option.some.injEq, hname, if_false]
    | _ => rfl

end Rewrites

/-! ## What a record holds -/

theorem inField_object_cons (field : String) (place : Nat) (name : Option String) (doc : Doc)
    (members : List (Option String × Doc)) :
    (Doc.object ((name, doc) :: members)).inField field place =
      if name = some field then doc :: (Doc.object members).inField field place
      else (Doc.object members).inField field place := by
  simp only [Doc.inField, List.filter_cons, beq_iff_eq]
  split <;> rfl

theorem inField_toDoc_object (name : String) (place : Nat) (members : List (String × Json)) :
    (Json.object members).toDoc.inField name place =
      (members.filter (·.1 == name)).map (·.2.toDoc) := by
  rw [Json.toDoc, Json.memberDocs_eq_map, Doc.inField, List.filter_map, List.map_map]
  rfl

theorem inField_toDoc_array (name : String) (place : Nat) (items : List Json) :
    (Json.array items).toDoc.inField name place = (items[place]?.map Json.toDoc).toList := by
  rw [Json.toDoc, Json.itemDocs_eq_map, Doc.inField, List.getElem?_map]

/-- With its members in order, an object has at most one of a name. -/
theorem inField_sorted_object (name : String) (place : Nat) (members : List (String × Json)) :
    (Json.object members).sorted.toDoc.inField name place =
      (((members.filter (·.1 == name)).getLast?).map (·.2.sorted.toDoc)).toList := by
  rw [Json.sorted_object_eq, inField_toDoc_object, Dict.filter_entries,
    Dict.get?_ofList_eq_getLast?, List.filter_map, List.getLast?_map]
  show List.map _ (((members.filter (·.1 == name)).getLast?.map _).map _ |>.map _).toList = _
  generalize (members.filter (·.1 == name)).getLast? = last
  cases last <;> rfl

theorem isArray_sorted (j : Json) : j.sorted.toDoc.isArray = j.toDoc.isArray := by
  cases j <;> simp only [Json.sorted, Json.toDoc, Doc.isArray]

/-! ## Decoding -/

theorem exists_of_map_eq_ok {ε α β : Type} {x : Except ε α} {f : α → β} {b : β}
    (h : x.map f = .ok b) : ∃ a, x = .ok a ∧ f a = b := by
  rcases x with e | a
  · cases h
  · exact ⟨a, rfl, Except.ok.inj h⟩

namespace Decoder

variable {α ρ : Type} {decode : Decoder α} {source : Source} {f : Doc → Doc} {g : α → α}

theorem items_map (h : ∀ doc, decode source (f doc) = (decode source doc).map g)
    (docs : List Doc) :
    items decode source (docs.map f) = (items decode source docs).map (List.map g) := by
  induction docs with
  | nil => rfl
  | cons doc docs ih =>
    rw [List.map_cons, items, h, ih, items]
    rcases decode source doc with e | a
    · rfl
    · rcases items decode source docs with e | as <;> rfl

/-- A decoder that goes along with a rewriting of items goes along with that of a list. -/
theorem list_eachItem (h : ∀ doc, decode source (f doc) = (decode source doc).map g) (doc : Doc) :
    list decode source (doc.eachItem f) = (list decode source doc).map (List.map g) := by
  cases doc with
  | array docs => exact items_map h docs
  | _ => rfl

theorem forall₂_of_items {docs : List Doc} {as : List α} (h : items decode source docs = .ok as) :
    List.Forall₂ (fun doc a => decode source doc = .ok a) docs as := by
  induction docs generalizing as with
  | nil =>
    cases h
    exact .nil
  | cons doc docs ih =>
    rw [items] at h
    obtain ⟨a, ha, h⟩ := exists_of_bind_eq_ok h
    obtain ⟨rest, hrest, h⟩ := exists_of_bind_eq_ok h
    cases h
    exact .cons ha (ih hrest)

theorem forall₂_of_list {doc : Doc} {as : List α} (h : list decode source doc = .ok as) :
    List.Forall₂ (fun doc a => decode source doc = .ok a) doc.items as := by
  cases doc with
  | array docs => exact forall₂_of_items h
  | _ => cases h

/-- An array that can be decoded once an item is rewritten, but whose item as it stands is at fault,
has that fault: the items in front of it are decoded as before. -/
theorem fromItems_of_modify {fields : List (Field ρ)} {field : Field ρ} {place : Nat}
    {docs : List Doc} {doc : Doc} {f : Doc → Doc} {record decoded : ρ} {fault : DecodeError}
    (hfield : fields[place]? = some field) (hdoc : docs[place]? = some doc)
    (hfault : ∀ record decoded, field.store source (f doc) record = .ok decoded →
      ∀ record, field.store source doc record = .error fault)
    (h : Shape.fromItems source record fields (docs.modify place f) = .ok decoded) :
    Shape.fromItems source record fields docs = .error fault := by
  induction place generalizing fields docs record with
  | zero =>
    cases fields with
    | nil => cases hfield
    | cons own fields =>
      cases docs with
      | nil => cases hdoc
      | cons first docs =>
        cases hfield
        cases hdoc
        rw [List.modify_zero_cons, Shape.fromItems] at h
        obtain ⟨stored, hstored, -⟩ := exists_of_bind_eq_ok h
        rw [Shape.fromItems, hfault record stored hstored record]
        rfl
  | succ place ih =>
    cases fields with
    | nil => cases hfield
    | cons own fields =>
      cases docs with
      | nil => cases hdoc
      | cons first docs =>
        rw [List.modify_succ_cons, Shape.fromItems] at h
        obtain ⟨stored, hstored, h⟩ := exists_of_bind_eq_ok h
        rw [Shape.fromItems, hstored]
        exact ih hfield hdoc h

end Decoder

end ClusterConvergence
