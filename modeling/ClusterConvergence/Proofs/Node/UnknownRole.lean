import ClusterConvergence.Proofs.Node.Mending

/-!
# Unknown roles

An unknown role is reported as such, before anything else that is wrong with its entry.  The roles
of an entry are looked at before it is decoded, but only if it is written as an object.  An entry
that is written as an array of its fields goes to the decoder as it is, which refuses an unknown
role like any other fault.  And of several lists of roles in one object only the last one is part of
the entry.

So an inventory that can be decoded but for its unknown roles is worth its nodes, or the fault of
the first entry with an unknown role in its last list of roles.

Main statement: `unknown_role_reported_iff`.
-/

namespace ClusterConvergence

open Decoder

/-! ## The unknown roles of an inventory -/

namespace Doc

/-- The text of a role that does not exist. -/
def unknownRole? : Doc → Option String
  | .string s => if Role.isKnown s then none else some s
  | _ => none

/-- The unknown roles in a list of roles. -/
def unknownIn (roles : Doc) : List String :=
  roles.items.filterMap unknownRole?

/-- The unknown roles in the list of roles that counts, which is the last one. -/
def unknownInForce (entry : Doc) : List String :=
  ((entry.inField "roles" rolesPlace).getLast?.map unknownIn).getD []

/-- The unknown roles of an inventory in the order of the text. -/
def unknownRoles (inventory : Doc) : List String :=
  inventory.entryDocs.flatMap fun entry => (entry.inField "roles" rolesPlace).flatMap unknownIn

/-- The first entry with an unknown role that counts. -/
def decisive? (inventory : Doc) : Option Doc :=
  inventory.entryDocs.find? fun entry => !entry.unknownInForce.isEmpty

end Doc

/-- What is reported of the roles of an entry. -/
def roleFault (entry : Doc) : Option RunError :=
  entry.unknownInForce.head?.map fun role =>
    if entry.isArray then
      .discovery ("invalid node entry: " ++ (RunError.unknownKind role).message)
    else .unknownKind role

/-! ## Lists of roles -/

namespace Doc

variable {known : Role} {source : Source} {doc roles : Doc}

theorem unknownRole?_eq_some_iff {s : String} :
    doc.unknownRole? = some s ↔ doc = .string s ∧ Role.isKnown s = false := by
  constructor
  · intro h
    cases doc with
    | string text =>
      rw [unknownRole?] at h
      split at h
      · cases h
      · next hunknown =>
        cases h
        exact ⟨rfl, Bool.eq_false_iff.2 hunknown⟩
    | _ => cases h
  · rintro ⟨rfl, hunknown⟩
    rw [unknownRole?, hunknown]
    rfl

theorem mendRole_eq_self (h : doc.unknownRole? = none) : doc.mendRole known = doc := by
  cases doc with
  | string s =>
    rw [unknownRole?] at h
    split at h
    · next hs => rw [mendRole, Role.mend, if_pos hs]
    · cases h
  | _ => rfl

theorem eachItem_mendRole_eq_self (h : roles.unknownIn = []) :
    eachItem (mendRole known) roles = roles := by
  cases roles with
  | array items =>
    have hitems : ∀ doc ∈ items, doc.unknownRole? = none := List.filterMap_eq_nil_iff.1 h
    refine congrArg Doc.array ((List.map_congr_left ?_).trans (List.map_id items))
    exact fun doc hdoc => mendRole_eq_self (hitems doc hdoc)
  | _ => rfl

end Doc

variable {known : Role} {source : Source}

theorem role_of_unknown {s : String} (h : Role.isKnown s = false) :
    Decoder.role source (.string s) = .error (.refused (RunError.unknownKind s).message) := by
  have hstring : Decoder.string source (.string s) = .ok s := rfl
  simp only [Decoder.role, hstring, bind, Except.bind, Role.parse_of_unknown h]
  rfl

/-- A list that could be decoded but for its unknown roles is refused for the first of them. -/
theorem items_role_of_unknown {role : String} {docs : List Doc} {decoded : List Role}
    (h : items Decoder.role source (docs.map (Doc.mendRole known)) = .ok decoded)
    (hrole : (docs.filterMap Doc.unknownRole?).head? = some role) :
    items Decoder.role source docs = .error (.refused (RunError.unknownKind role).message) := by
  induction docs generalizing decoded with
  | nil => cases hrole
  | cons doc docs ih =>
    rw [List.map_cons, items] at h
    obtain ⟨first, hfirst, h⟩ := exists_of_bind_eq_ok h
    obtain ⟨rest, hrest, -⟩ := exists_of_bind_eq_ok h
    rw [List.filterMap_cons] at hrole
    rw [items]
    rcases hdoc : doc.unknownRole? with - | text
    · -- a known role is decoded as it is
      rw [hdoc] at hrole
      rw [Doc.mendRole_eq_self hdoc] at hfirst
      rw [hfirst, ih hrest hrole]
      rfl
    · obtain ⟨rfl, hunknown⟩ := Doc.unknownRole?_eq_some_iff.1 hdoc
      rw [hdoc] at hrole
      cases hrole
      rw [role_of_unknown hunknown]
      rfl

theorem list_role_of_unknown {role : String} {roles : Doc} {decoded : List Role}
    (h : list Decoder.role source (roles.eachItem (Doc.mendRole known)) = .ok decoded)
    (hrole : roles.unknownIn.head? = some role) :
    list Decoder.role source roles = .error (.refused (RunError.unknownKind role).message) := by
  cases roles with
  | array docs => exact items_role_of_unknown h hrole
  | _ => cases hrole

/-! ## What an entry holds -/

theorem unknownRole?_sorted (j : Json) : j.sorted.toDoc.unknownRole? = j.toDoc.unknownRole? := by
  cases j <;> simp only [Json.sorted, Json.toDoc, Doc.unknownRole?]

/-- Putting members in order leaves the roles of a list where they are. -/
theorem unknownIn_sorted (j : Json) : j.sorted.toDoc.unknownIn = j.toDoc.unknownIn := by
  cases j with
  | array items =>
    rw [Json.sorted, Json.toDoc, Json.toDoc, Json.sortedItems_eq_map, Json.itemDocs_eq_map,
      Json.itemDocs_eq_map, List.map_map]
    show List.filterMap _ (items.map _) = List.filterMap _ (items.map _)
    rw [List.filterMap_map, List.filterMap_map]
    exact List.filterMap_congr fun item _ => unknownRole?_sorted item
  | _ => simp only [Json.sorted, Json.toDoc, Doc.unknownIn, Doc.items]

/-- Of an entry only the last list of roles is left when its members are put in order, so what
counts stays the same. -/
theorem unknownInForce_sorted (j : Json) :
    j.sorted.toDoc.unknownInForce = j.toDoc.unknownInForce := by
  cases j with
  | object members =>
    rw [Doc.unknownInForce, Doc.unknownInForce, inField_sorted_object, inField_toDoc_object,
      List.getLast?_map]
    generalize (members.filter (·.1 == "roles")).getLast? = last
    rcases last with - | e
    · rfl
    · exact unknownIn_sorted e.2
  | array items =>
    rw [Doc.unknownInForce, Doc.unknownInForce, inField_toDoc_array, Json.sorted,
      inField_toDoc_array, Json.sortedItems_eq_map, List.getElem?_map]
    rcases items[rolesPlace]? with - | item
    · rfl
    · exact unknownIn_sorted item
  | _ => simp only [Json.sorted]

theorem roleFault_sorted (j : Json) : roleFault j.sorted.toDoc = roleFault j.toDoc := by
  rw [roleFault, unknownInForce_sorted, isArray_sorted, roleFault]

/-! ## The node of an entry -/

/-- Mending does nothing to an entry without unknown roles. -/
theorem mendEntry_eq_self {doc : Doc}
    (h : ∀ roles ∈ doc.inField "roles" rolesPlace, roles.unknownIn = []) :
    doc.mendEntry known = doc := by
  cases doc with
  | object members =>
    refine congrArg Doc.object ((List.map_congr_left fun e he => ?_).trans (List.map_id members))
    refine Prod.ext rfl ?_
    show (if e.1 = some "roles" then e.2.eachItem _ else e.2) = e.2
    split
    · next hname =>
      refine Doc.eachItem_mendRole_eq_self (h e.2 (List.mem_map.2 ⟨e, ?_, rfl⟩))
      exact List.mem_filter.2 ⟨he, beq_iff_eq.2 hname⟩
    · rfl
  | array items =>
    refine congrArg Doc.array (List.ext_getElem? fun i => ?_)
    rw [List.getElem?_modify]
    rcases hitem : items[i]? with - | item
    · rfl
    · by_cases hplace : rolesPlace = i
      · have hmem : item ∈ (Doc.array items).inField "roles" rolesPlace := by
          rw [Doc.inField, hplace, hitem]
          exact List.mem_singleton_self item
        refine congrArg some ((if_pos hplace).trans ?_)
        exact Doc.eachItem_mendRole_eq_self (h item hmem)
      · exact congrArg some (if_neg hplace)
  | _ => rfl

theorem exists_inField_sorted (j : Json) :
    ∃ roles : Option Doc, j.sorted.toDoc.inField "roles" rolesPlace = roles.toList := by
  cases j with
  | object members => exact ⟨_, inField_sorted_object "roles" rolesPlace members⟩
  | array items => exact ⟨_, by rw [Json.sorted, inField_toDoc_array]⟩
  | _ => exact ⟨none, by simp only [Json.sorted, Json.toDoc, Doc.inField, Option.toList_none]⟩

theorem ofJson_mendEntry (j : Json) :
    Decoder.ofJson Node.decode (j.mendEntry known) =
      Node.decode .value (j.toDoc.mendEntry known) := by
  rw [ofJson, (rewrites_mendEntry known).toDoc_eq]

/-- An entry that could be decoded but for its unknown roles is decoded if none of them counts. -/
theorem decode_of_none_unknown {j : Json} {node : Node}
    (h : Decoder.ofJson Node.decode (j.sorted.mendEntry known) = .ok node)
    (hnone : j.sorted.toDoc.unknownInForce.head? = none) :
    Decoder.ofJson Node.decode j.sorted = .ok node := by
  obtain ⟨roles, hroles⟩ := exists_inField_sorted j
  rw [ofJson_mendEntry, mendEntry_eq_self] at h
  · exact h
  · rw [List.head?_eq_none_iff, Doc.unknownInForce, hroles] at hnone
    rw [hroles]
    rcases roles with - | roles
    · exact List.forall_mem_nil _
    · exact List.forall_mem_singleton.2 hnone

/-- An entry that is written as an array and could be decoded but for its unknown roles is refused
for the first of them. -/
theorem decode_array_of_unknown {items : List Json} {role : String} {node : Node}
    (h : Decoder.ofJson Node.decode ((Json.array items).mendEntry known) = .ok node)
    (hrole : (Json.array items).toDoc.unknownInForce.head? = some role) :
    Decoder.ofJson Node.decode (.array items) =
      .error (.refused (RunError.unknownKind role).message) := by
  rw [Doc.unknownInForce, inField_toDoc_array] at hrole
  rcases hitem : items[rolesPlace]? with - | roles
  · rw [hitem] at hrole
    cases hrole
  · rw [hitem] at hrole
    have hdoc : (Json.itemDocs items)[rolesPlace]? = some roles.toDoc := by
      rw [Json.itemDocs_eq_map, List.getElem?_map, hitem]
      rfl
    have hfield : Node.shape.fields[rolesPlace]? =
        some (field "roles" (.list .role) (fun node x => { node with roles := x }) false) := rfl
    rw [ofJson_mendEntry] at h
    refine fromItems_of_modify hfield hdoc ?_ h
    intro record decoded hstored record
    obtain ⟨own, hown, -⟩ := exists_of_map_eq_ok hstored
    show (list Decoder.role .value roles.toDoc).map _ = _
    rw [list_role_of_unknown hown hrole]
    rfl

/-! ## The check of the roles -/

/-- The texts in a list. -/
def Json.texts : Json → List String
  | .array items => items.filterMap fun
    | .string s => some s
    | _ => none
  | _ => []

theorem unknownIn_toDoc (j : Json) :
    j.toDoc.unknownIn = j.texts.filter fun s => !Role.isKnown s := by
  cases j with
  | array items =>
    rw [Json.toDoc, Json.itemDocs_eq_map, Doc.unknownIn, Doc.items, Json.texts,
      List.filterMap_map, List.filter_filterMap]
    refine List.filterMap_congr fun item _ => ?_
    cases item with
    | string s =>
      show (if Role.isKnown s then none else some s) = Option.filter _ (some s)
      rw [Option.filter_some]
      cases Role.isKnown s <;> rfl
    | _ => rfl
  | _ => rfl

theorem roleTexts_entries (d : Dict Json) :
    roleTexts (.object d.entries) = ((d.get? "roles").map Json.texts).getD [] := by
  have hfind : d.entries.find? (·.1 == "roles") = (d.get? "roles").map fun j => ("roles", j) := by
    rw [← List.head?_filter, Dict.filter_entries]
    cases d.get? "roles" <;> rfl
  rw [roleTexts, hfind]
  rcases d.get? "roles" with - | j
  · rfl
  · cases j <;> rfl

theorem forM_parse (texts : List String) :
    (texts.forM fun text => do let _ ← Role.parse text) =
      (texts.find? fun s => !Role.isKnown s).elim (.ok ()) fun role =>
        .error (.unknownKind role) := by
  induction texts with
  | nil => rfl
  | cons text texts ih =>
    rw [List.forM, List.find?_cons]
    rcases hknown : Role.isKnown text with - | -
    · rw [Role.parse_of_unknown hknown]
      rfl
    · obtain ⟨role, hrole⟩ := Role.exists_parse_of_known hknown
      rw [hrole]
      exact ih

/-- An entry that is written as an object is refused for the first unknown role that counts. -/
theorem checkRoles_entries (d : Dict Json) :
    checkRoles (.object d.entries) =
      (Json.object d.entries).toDoc.unknownInForce.head?.elim (.ok ()) fun role =>
        .error (.unknownKind role) := by
  have hforce : (Json.object d.entries).toDoc.unknownInForce =
      (((d.get? "roles").map Json.texts).getD []).filter fun s => !Role.isKnown s := by
    rw [Doc.unknownInForce, inField_toDoc_object, Dict.filter_entries]
    rcases d.get? "roles" with - | j
    · rfl
    · exact unknownIn_toDoc j
  rw [checkRoles, roleTexts_entries, forM_parse, hforce, List.head?_filter]

/-- An entry that could be decoded but for its unknown roles is worth its node, or the fault that is
reported of its roles. -/
theorem nodeOfEntry_of_mended {j : Json} {node : Node}
    (h : Decoder.ofJson Node.decode (j.sorted.mendEntry known) = .ok node) :
    nodeOfEntry j.sorted = (roleFault j.sorted.toDoc).elim (.ok node) .error := by
  rw [nodeOfEntry, roleFault]
  rcases hrole : j.sorted.toDoc.unknownInForce.head? with - | role
  · -- without an unknown role the check passes, and mending has changed nothing
    have hcheck : checkRoles j.sorted = .ok () := by
      cases j with
      | object members =>
        rw [Json.sorted_object_eq] at hrole ⊢
        rw [checkRoles_entries, hrole]
        rfl
      | _ =>
        rw [Json.sorted]
        rfl
    rw [hcheck, decode_of_none_unknown h hrole]
    rfl
  · cases j with
    | object members =>
      rw [Json.sorted_object_eq] at hrole ⊢
      rw [checkRoles_entries, hrole]
      rfl
    | array items =>
      -- the check finds no list of roles here, so it is left to the decoder to refuse the role
      rw [Json.sorted] at h hrole ⊢
      have hcheck : checkRoles (.array (Json.sortedItems items)) = .ok () := rfl
      rw [hcheck, decode_array_of_unknown h hrole]
      rfl
    | _ =>
      rw [Json.sorted] at hrole
      cases hrole

/-! ## What is reported -/

/-- The entries are gone through in order, up to the first fault of its roles. -/
theorem mapM_nodeOfEntry {docs : List Doc} {entries : List Json} {nodes : List Node}
    (hentries : List.Forall₂ (fun doc entry => Decoder.entry source doc = .ok entry) docs entries)
    (hnodes : (entries.map (Json.mendEntry known)).mapM (Decoder.ofJson Node.decode) =
      .ok nodes) :
    entries.mapM nodeOfEntry = (docs.findSome? roleFault).elim (.ok nodes) .error := by
  induction hentries generalizing nodes with
  | nil =>
    cases hnodes
    rfl
  | @cons doc entry docs entries hfirst _ ih =>
    rw [List.map_cons, List.mapM_cons] at hnodes
    obtain ⟨node, hnode, hnodes⟩ := exists_of_bind_eq_ok hnodes
    obtain ⟨rest, hrest, hnodes⟩ := exists_of_bind_eq_ok hnodes
    cases hnodes
    obtain ⟨j, rfl, rfl⟩ := exists_of_entry hfirst
    rw [List.mapM_cons, nodeOfEntry_of_mended hnode, roleFault_sorted, List.findSome?_cons,
      ih hrest]
    rcases roleFault j.toDoc with - | fault
    · rcases docs.findSome? roleFault <;> rfl
    · rfl

/-- An inventory that could be decoded but for its unknown roles is worth its nodes, or the first
fault that is reported of the roles of an entry. -/
theorem parseInventory_of_mended {text : String} {inventory : Doc} {nodes : List Node}
    (hread : Doc.read text = (inventory, true))
    (hmended : nodesOf (inventory.mendInventory known) = .ok nodes) :
    parseInventory text =
      (inventory.entryDocs.findSome? roleFault).elim (.ok nodes) .error := by
  rw [nodesOf, Doc.mendInventory, decode_inventory_rewrite (rewrites_mendEntry known)] at hmended
  obtain ⟨mended, hdecode, hnodes⟩ := exists_of_bind_eq_ok hmended
  obtain ⟨entries, hentries, rfl⟩ := exists_of_map_eq_ok hdecode
  have hrun : Decoder.run (inventoryShape.decode []) text = .ok entries := by
    rw [run, hread]
    dsimp only
    rw [hentries]
    rfl
  rw [parseInventory, hrun]
  exact mapM_nodeOfEntry (forall₂_of_inventory hentries) hnodes

/-- The decisive entry is that of the first fault. -/
theorem findSome?_roleFault (inventory : Doc) :
    inventory.entryDocs.findSome? roleFault = inventory.decisive?.bind roleFault := by
  rw [Doc.decisive?]
  induction inventory.entryDocs with
  | nil => rfl
  | cons entry docs ih =>
    rw [List.findSome?_cons, List.find?_cons, ih, roleFault]
    rcases hforce : entry.unknownInForce with - | ⟨role, rest⟩
    · rfl
    · show _ = roleFault entry
      rw [roleFault, hforce]
      rfl

/-- The decisive entry is that of the first unknown role that counts. -/
theorem head?_unknownInForce (inventory : Doc) :
    (inventory.entryDocs.flatMap Doc.unknownInForce).head? =
      inventory.decisive?.bind fun entry => entry.unknownInForce.head? := by
  rw [Doc.decisive?]
  induction inventory.entryDocs with
  | nil => rfl
  | cons entry docs ih =>
    rw [List.flatMap_cons, List.find?_cons]
    rcases hforce : entry.unknownInForce with - | ⟨role, rest⟩
    · exact ih
    · show some role = entry.unknownInForce.head?
      rw [hforce]
      rfl

theorem exists_of_decisive? {inventory entry : Doc} (h : inventory.decisive? = some entry) :
    ∃ role, entry.unknownInForce.head? = some role := by
  have hsome := List.find?_some h
  rcases hforce : entry.unknownInForce with - | ⟨role, rest⟩
  · rw [hforce] at hsome
    cases hsome
  · exact ⟨role, rfl⟩

/-- Take an inventory that could be decoded but for its unknown roles.  The first of them is
reported, and the nodes are found if there is none, exactly if the first unknown role of the text is
also the first that counts, and the entry that it is in is not written as an array.  In general the
first entry with an unknown role that counts decides what is reported. -/
theorem unknown_role_reported_iff {text : String} {inventory : Doc} {known : Role}
    {nodes : List Node} (hread : Doc.read text = (inventory, true))
    (hmended : nodesOf (inventory.mendInventory known) = .ok nodes) :
    (parseInventory text =
        inventory.unknownRoles.head?.elim (.ok nodes) (fun role => .error (.unknownKind role)) ↔
      inventory.unknownRoles.head? = (inventory.entryDocs.flatMap Doc.unknownInForce).head? ∧
        ∀ entry ∈ inventory.decisive?, entry.isArray = false) ∧
    parseInventory text =
      (inventory.entryDocs.findSome? roleFault).elim (.ok nodes) .error := by
  have hparse := parseInventory_of_mended hread hmended
  refine ⟨?_, hparse⟩
  rw [hparse, findSome?_roleFault, head?_unknownInForce]
  rcases hfirst : inventory.decisive? with - | entry
  · rcases inventory.unknownRoles.head? with - | role <;> simp
  · obtain ⟨role, hrole⟩ := exists_of_decisive? hfirst
    rw [Option.bind_some, Option.bind_some, roleFault, hrole]
    rcases inventory.unknownRoles.head? with - | other
    · simp
    · cases harray : entry.isArray <;> simp [harray, @eq_comm _ role]

/-- An entry that is written as an array. -/
def arrayEntry (name fqdn ipAddress : String) (roles : List String) : Json :=
  .array [.string name, .string fqdn, .string ipAddress, .integer 27017, .bool false, .null,
    .string "", .null, .null, .strings roles]

/-- An inventory with an entry that is written as an array and has known roles only, one that names
its roles twice, and one that is written as an array and has an unknown role. -/
def mixedInventory : Json := inventoryOf [
  arrayEntry "a" "a.cluster" "10.0.0.1" ["shard"],
  .object [("roles", .strings ["mongos"]), ("fqdn", .string "b.cluster"), ("name", .string "b"),
    ("roles", .strings ["shard", "arbiter", "hidden"]), ("ip_address", .string "10.0.0.2")],
  arrayEntry "c" "c.cluster" "10.0.0.3" ["witness"]]

/-- Its nodes, with the unknown roles mended. -/
def mendedNodes : List Node := [
  { name := "a", fqdn := "a.cluster", ipAddress := "10.0.0.1", roles := [.shard] },
  { name := "b", fqdn := "b.cluster", ipAddress := "10.0.0.2",
    roles := [.shard, .mongod, .mongod] },
  { name := "c", fqdn := "c.cluster", ipAddress := "10.0.0.3", roles := [.mongod] }]

theorem unknown_role_reported_in_mixed_inventory :
    Doc.read mixedInventory.render = (mixedInventory.toDoc, true) ∧
    nodesOf (mixedInventory.toDoc.mendInventory .mongod) = .ok mendedNodes ∧
    mixedInventory.toDoc.unknownRoles = ["arbiter", "hidden", "witness"] ∧
    parseInventory mixedInventory.render = .error (.unknownKind "arbiter") := by
  have hlegible : mixedInventory.Legible := by
    simp [mixedInventory, arrayEntry, inventoryOf, Json.strings, Json.Legible, Json.LegibleItems,
      Json.LegibleMembers]
  have hread := Json.read_render hlegible
  have hmended : nodesOf (mixedInventory.toDoc.mendInventory .mongod) = .ok mendedNodes := by
    decide +kernel
  have hunknown : mixedInventory.toDoc.unknownRoles = ["arbiter", "hidden", "witness"] := by
    decide +kernel
  have hparse := (unknown_role_reported_iff hread hmended).1.2
  rw [hunknown] at hparse
  refine ⟨hread, hmended, hunknown, hparse ⟨by decide +kernel, ?_⟩⟩
  intro entry hentry
  cases hentry
  rfl

/-- An inventory with one entry, which is written as an array and has an unknown role. -/
def arrayInventory : Json :=
  inventoryOf [arrayEntry "a" "a" "1.1.1.1" ["arbiter"]]

theorem unknown_role_of_array_entry_is_no_unknown_role :
    nodesOf (arrayInventory.toDoc.mendInventory .mongod) =
      .ok [{ name := "a", fqdn := "a", ipAddress := "1.1.1.1", roles := [.mongod] }] ∧
    arrayInventory.toDoc.unknownRoles = ["arbiter"] ∧
    parseInventory arrayInventory.render =
      .error (.discovery "invalid node entry: Unknown shard type: 'arbiter'") := by
  have hlegible : arrayInventory.Legible := by
    simp [arrayInventory, arrayEntry, inventoryOf, Json.strings, Json.Legible, Json.LegibleItems,
      Json.LegibleMembers]
  have hmended : nodesOf (arrayInventory.toDoc.mendInventory .mongod) =
      .ok [{ name := "a", fqdn := "a", ipAddress := "1.1.1.1", roles := [.mongod] }] := by
    decide +kernel
  refine ⟨hmended, by decide +kernel, ?_⟩
  rw [parseInventory_of_mended (Json.read_render hlegible) hmended]
  decide +kernel

end ClusterConvergence
