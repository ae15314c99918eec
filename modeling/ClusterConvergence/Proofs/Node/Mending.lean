import ClusterConvergence.Proofs.Json.Rewriting

/-!
# Inventories with their roles mended

To say what an inventory is worth apart from its unknown roles, they are replaced by a known one in
the text as it was read (`Doc.mendInventory`).  The entries are then taken out of the text in the
same way, with the same replacement made in each of them (`decode_inventory_rewrite`): of an inventory
that can be read, the entries are the items of its one list of nodes (`forall₂_of_inventory`).
-/

namespace ClusterConvergence

open Decoder

/-! ## Roles by name -/

namespace Role

/-- Whether a role has this name. -/
def isKnown (s : String) : Bool :=
  (parse s).isOk

/-- A name, or that of a known role in its place if there is no such role. -/
def mend (known : Role) (s : String) : String :=
  if isKnown s then s else known.name

theorem parse_of_unknown {s : String} (h : isKnown s = false) :
    parse s = .error (.unknownKind s) := by
  rw [isKnown] at h
  unfold parse at h ⊢
  split at h <;> first | rfl | cases h

theorem exists_parse_of_known {s : String} (h : isKnown s = true) : ∃ role, parse s = .ok role := by
  rw [isKnown] at h
  rcases hparse : parse s with e | role
  · rw [hparse] at h
    cases h
  · exact ⟨role, rfl⟩

end Role

/-- The text of a role, mended; anything else stays as it is. -/
def Doc.mendRole (known : Role) : Doc → Doc
  | .string s => .string (known.mend s)
  | doc => doc

/-- The same for a value. -/
def Json.mendRole (known : Role) : Json → Json
  | .string s => .string (known.mend s)
  | j => j

theorem rewrites_mendRole (known : Role) : Rewrites (Doc.mendRole known) (Json.mendRole known) where
  value?_eq doc depth := by
    cases doc with
    | string s => rfl
    | _ =>
      refine (Doc.value?_map_eq_self ?_ depth).symm
      intro j hj
      cases j <;> first | rfl | cases hj
  sorted_eq j := by
    cases j <;> simp only [Json.mendRole, Json.sorted]
  toDoc_eq j := by
    cases j <;> rfl

/-! ## Inventories with their roles mended -/

/-- The place of the roles among the fields of a node. -/
def rolesPlace : Nat := 9

example : (Node.shape.fields[rolesPlace]?.map (·.name)) = some "roles" := rfl

/-- An entry with its unknown roles replaced by a known one. -/
def Doc.mendEntry (known : Role) : Doc → Doc :=
  atField "roles" rolesPlace (eachItem (mendRole known))

/-- The same for a value. -/
def Json.mendEntry (known : Role) : Json → Json :=
  atField "roles" rolesPlace (eachItem (mendRole known))

/-- An inventory with the unknown roles of its entries replaced by a known one. -/
def Doc.mendInventory (known : Role) : Doc → Doc :=
  atField "nodes" 0 (eachItem (mendEntry known))

theorem rewrites_mendEntry (known : Role) : Rewrites (Doc.mendEntry known) (Json.mendEntry known) :=
  (rewrites_mendRole known).eachItem.atField "roles" rolesPlace

namespace Doc

/-- The entries of an inventory. -/
def entryDocs (inventory : Doc) : List Doc :=
  (inventory.inField "nodes" 0).flatMap items

end Doc

/-- The nodes of an inventory whose entries go to the decoder as they are. -/
def nodesOf (inventory : Doc) : Except DecodeError (List Node) := do
  let entries ← inventoryShape.decode [] .text inventory
  entries.mapM (Decoder.ofJson Node.decode)

/-! ## Entries -/

variable {source : Source}

theorem Rewrites.entry {f : Doc → Doc} {g : Json → Json} (h : Rewrites f g) (doc : Doc) :
    Decoder.entry source (f doc) = (Decoder.entry source doc).map g := by
  rw [Decoder.entry, h.value?_eq, Decoder.entry]
  rcases doc.value? entryDepth with - | j
  · rfl
  · exact congrArg Except.ok (h.sorted_eq j)

/-- An entry is a value of the text with its members in order. -/
theorem exists_of_entry {doc : Doc} {entry : Json} (h : Decoder.entry source doc = .ok entry) :
    ∃ j : Json, doc = j.toDoc ∧ entry = j.sorted := by
  rw [Decoder.entry] at h
  rcases hvalue : doc.value? entryDepth with - | j
  · rw [hvalue] at h
    cases h
  · rw [hvalue] at h
    cases h
    exact ⟨j, Doc.eq_toDoc_of_value? doc hvalue, rfl⟩

/-! ## Inventories -/

theorem fromMembers_inventory_cons (source : Source) (seen : List String) (record : List Json)
    (name : String) (doc : Doc) (members : List (Option String × Doc)) :
    inventoryShape.fromMembers source seen record ((some name, doc) :: members) =
      if name = "nodes" then
        if "nodes" ∈ seen then .error (.repeatedField "nodes")
        else list Decoder.entry source doc >>= fun entries =>
          inventoryShape.fromMembers source ("nodes" :: seen) entries members
      else if doc.passable then inventoryShape.fromMembers source seen record members
      else .error .malformed := by
  rw [Shape.fromMembers]
  by_cases hname : name = "nodes"
  · subst hname
    have hfield : inventoryShape.field? "nodes" = some (inventoryShape.fields[0]) := rfl
    rw [hfield, if_pos rfl]
    simp only [List.contains_iff_mem]
    split
    · rfl
    · show ((list Decoder.entry source doc).map _ >>= _) = _
      rcases list Decoder.entry source doc <;> rfl
  · have hfield : inventoryShape.field? name = none := by
      simpa [Shape.field?, inventoryShape, field] using Ne.symm hname
    rw [hfield, if_neg hname]
    rfl

theorem fromMembers_inventory_rewrite {f : Doc → Doc} {g : Json → Json} (h : Rewrites f g)
    (source : Source) (seen : List String) (record : List Json)
    (members : List (Option String × Doc)) :
    inventoryShape.fromMembers source seen (record.map g)
        (members.map fun e => (e.1, if e.1 = some "nodes" then e.2.eachItem f else e.2)) =
      (inventoryShape.fromMembers source seen record members).map (List.map g) := by
  induction members generalizing seen record with
  | nil => rfl
  | cons e members ih =>
    obtain ⟨name, doc⟩ := e
    rcases name with - | name
    · rfl
    · rw [List.map_cons, fromMembers_inventory_cons, fromMembers_inventory_cons]
      by_cases hname : name = "nodes"
      · by_cases hseen : "nodes" ∈ seen
        · simp only [hname, hseen, if_true]
          rfl
        · simp only [hname, hseen, if_true, if_false]
          rw [list_eachItem h.entry]
          rcases list Decoder.entry source doc with e | entries
          · rfl
          · exact ih _ _
      · simp only [Option.some.injEq, hname, if_false]
        split
        · exact ih _ _
        · rfl

/-- Rewriting the entries of an inventory rewrites what is decoded from it. -/
theorem decode_inventory_rewrite {f : Doc → Doc} {g : Json → Json} (h : Rewrites f g)
    (source : Source) (inventory : Doc) :
    inventoryShape.decode [] source (inventory.atField "nodes" 0 (Doc.eachItem f)) =
      (inventoryShape.decode [] source inventory).map (List.map g) := by
  cases inventory with
  | object members => exact fromMembers_inventory_rewrite h source [] [] members
  | array docs =>
    rcases docs with - | ⟨doc, docs⟩
    · rfl
    · -- whatever follows the list of nodes is surplus
      show ((list Decoder.entry source (doc.eachItem f)).map _ >>= _) =
        ((list Decoder.entry source doc).map _ >>= _).map _
      rw [list_eachItem h.entry]
      rcases list Decoder.entry source doc with e | entries
      · rfl
      · cases docs <;> cases source <;> rfl
  | _ => rfl

/-- What is entered as the nodes of an inventory stands in it just once. -/
theorem fromMembers_inventory_eq_ok {source : Source} {seen : List String}
    {record entries : List Json} {members : List (Option String × Doc)}
    (h : inventoryShape.fromMembers source seen record members = .ok entries) :
    (Doc.object members).inField "nodes" 0 = [] ∧ entries = record ∨
      "nodes" ∉ seen ∧ ∃ doc, (Doc.object members).inField "nodes" 0 = [doc] ∧
        list Decoder.entry source doc = .ok entries := by
  induction members generalizing seen record with
  | nil =>
    cases h
    exact Or.inl ⟨rfl, rfl⟩
  | cons e members ih =>
    obtain ⟨name, doc⟩ := e
    rcases name with - | name
    · cases h
    · rw [fromMembers_inventory_cons] at h
      split at h
      · next hname =>
        split at h
        · cases h
        · next hseen =>
          obtain ⟨own, hown, h⟩ := exists_of_bind_eq_ok h
          rcases ih h with ⟨hrest, rfl⟩ | ⟨hnot, -⟩
          · refine Or.inr ⟨hseen, doc, ?_, hown⟩
            rw [inField_object_cons, if_pos (congrArg some hname), hrest]
          · exact absurd List.mem_cons_self hnot
      · next hname =>
        rw [inField_object_cons, if_neg (fun h => hname (Option.some.inj h))]
        split at h
        · exact ih h
        · cases h

/-- The entries of an inventory are decoded one after the other. -/
theorem forall₂_of_inventory {inventory : Doc} {entries : List Json}
    (h : inventoryShape.decode [] source inventory = .ok entries) :
    List.Forall₂ (fun doc entry => Decoder.entry source doc = .ok entry) inventory.entryDocs
      entries := by
  cases inventory with
  | object members =>
    rw [Doc.entryDocs]
    rcases fromMembers_inventory_eq_ok h with ⟨hnone, rfl⟩ | ⟨-, doc, hdoc, hentries⟩
    · rw [hnone]
      exact .nil
    · rw [hdoc, List.flatMap_singleton]
      exact forall₂_of_list hentries
  | array docs =>
    rcases docs with - | ⟨doc, docs⟩
    · cases h
      exact .nil
    · change ((list Decoder.entry source doc).map _ >>= _) = _ at h
      obtain ⟨own, hown, h⟩ := exists_of_bind_eq_ok h
      obtain ⟨entries, hentries, rfl⟩ := exists_of_map_eq_ok hown
      rcases docs with - | ⟨next, docs⟩
      · cases h
        show List.Forall₂ _ (doc.items ++ []) _
        rw [List.append_nil]
        exact forall₂_of_list hentries
      · cases source <;> cases h
  | _ => cases h

end ClusterConvergence
