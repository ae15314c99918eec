import ClusterConvergence.Node.Document

/-!
# Inventories

A file that lists the nodes.  An unknown role is reported as such, before anything else that is wrong
with its entry; every other fault is a fault of the inventory.
-/

namespace ClusterConvergence

/-- How deep an entry may be nested: it stands in an array in an object. -/
def entryDepth : Nat :=
  Doc.depthLimit - 2

/-- Decode an entry as a value, its members in ascending order, the last of one name. -/
def Decoder.entry : Decoder Json
  | _, doc =>
    match doc.value? entryDepth with
    | some value => .ok value.sorted
    | none => .error .malformed

/-- The list of nodes in an inventory; it may be missing. -/
def inventoryShape : Decoder.Shape (List Json) where
  fields := [Decoder.field "nodes" (.list .entry) (fun _ x => x) false]

/-- The texts among the roles of an entry, if it is written as an object. -/
def roleTexts : Json → List String
  | .object members =>
    match members.find? (·.1 == "roles") with
    | some (_, .array items) =>
      items.filterMap fun
        | .string s => some s
        | _ => none
    | _ => []
  | _ => []

/-- The first role of an entry that does not exist. -/
def checkRoles (entry : Json) : Except RunError Unit :=
  (roleTexts entry).forM fun text => do
    let _ ← Role.parse text

/-- The node of an entry. -/
def nodeOfEntry (entry : Json) : Except RunError Node := do
  checkRoles entry
  match Decoder.ofJson Node.decode entry with
  | .ok node => return node
  | .error e => throw (.discovery ("invalid node entry: " ++ e.message))

/-- The nodes of an inventory. -/
def parseInventory (text : String) : Except RunError (List Node) := do
  match Decoder.run (inventoryShape.decode []) text with
  | .ok entries => entries.mapM nodeOfEntry
  | .error e => throw (.discovery ("invalid inventory JSON: " ++ e.message))

end ClusterConvergence
