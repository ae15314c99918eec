import ClusterConvergence.Error
import ClusterConvergence.Text.Blank
import ClusterConvergence.Text.Dict

/-!
# Sharded collections

A collection that shall be distributed over the shards, and the key by which it is distributed.  A
collection is named by a namespace: the name of its database, a point and its own name.  The database
ends at the first point.

Main statement: `splitNamespace_append` says that the two parts of a namespace make it up again.
-/

namespace ClusterConvergence

/-- The two sides of the first point of a text, if it has one. -/
def splitPoint : List Char → Option (List Char × List Char)
  | [] => none
  | c :: rest =>
    if c = '.' then some ([], rest) else (splitPoint rest).map fun (a, b) => (c :: a, b)

theorem splitPoint_append {cs a b : List Char} (h : splitPoint cs = some (a, b)) :
    a ++ '.' :: b = cs := by
  induction cs generalizing a b with
  | nil => simp [splitPoint] at h
  | cons c rest ih =>
    rw [splitPoint] at h
    split at h
    · next hc => cases h; simp [hc]
    · obtain ⟨⟨a', b'⟩, hr, he⟩ := Option.map_eq_some_iff.1 h
      cases he
      simp [ih hr]

/-- The database and the collection of a namespace; without a point all of it is the database. -/
def splitNamespace (ns : String) : String × String :=
  match splitPoint ns.toList with
  | some (db, coll) => (String.ofList db, String.ofList coll)
  | none => (ns, "")

/-- The parts of a namespace with a point, joined by a point, are the namespace. -/
theorem splitNamespace_append {ns : String} (h : splitPoint ns.toList ≠ none) :
    (splitNamespace ns).1 ++ "." ++ (splitNamespace ns).2 = ns := by
  rw [splitNamespace]
  split
  · next db coll hs =>
    have := splitPoint_append hs
    apply String.toList_inj.1
    simpa [String.toList_append] using this
  · next hs => exact absurd hs h

/-- Whether a character may stand in the name of a database. -/
def isDatabaseChar (c : Char) : Bool :=
  !(['/', '\\', '.', ' ', '"', '$'].contains c)

/-- Whether a list of characters names a database: it is not empty and every character is allowed. -/
def isDatabaseName (cs : List Char) : Bool :=
  !cs.isEmpty && cs.all isDatabaseChar

/-- Whether a list of characters names a collection: it has no dollar sign and does not begin with a
blank. -/
def isCollectionName : List Char → Bool
  | [] => false
  | c :: rest => c != '$' && !isBlank c && rest.all (· != '$')

/-- Whether a text is the name of a database, a point and the name of a collection. -/
def isNamespace (ns : String) : Bool :=
  match splitPoint ns.toList with
  | some (db, coll) => isDatabaseName db && isCollectionName coll
  | none => false

/-- A collection that shall be sharded. -/
structure ShardedCollection where
  ns : String
  key : String
  deriving DecidableEq, Repr

namespace ShardedCollection

/-- Check a namespace and a key; the namespace is looked at first. -/
def parse (ns key : String) : Except RunError ShardedCollection :=
  if !isNamespace ns then
    .error (.invalidConfiguration
      ("sharded collection '" ++ ns ++ "' is not of the form 'db.collection'"))
  else if isBlankText key then
    .error (.invalidConfiguration ("sharded collection '" ++ ns ++ "' has an empty shard key"))
  else .ok ⟨ns, key⟩

/-- Check a dictionary from namespaces to keys; the first entry that is refused counts. -/
def parseAll (collections : Dict String) : Except RunError (List ShardedCollection) :=
  collections.entries.mapM fun e => parse e.1 e.2

/-- The database that the collection is in. -/
def database (c : ShardedCollection) : String :=
  (splitNamespace c.ns).1

/-- The name of the collection in its database. -/
def collection (c : ShardedCollection) : String :=
  (splitNamespace c.ns).2

/-- The key document: ascending by the key. -/
def keyDocument (c : ShardedCollection) : Dict Int32 :=
  Dict.empty.insert c.key 1

/-- The databases of the collections, each once, in ascending order. -/
def databases (cs : List ShardedCollection) : List String :=
  (NameSet.ofNames (cs.map database)).keys

end ShardedCollection

end ClusterConvergence
