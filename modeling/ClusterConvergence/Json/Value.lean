import ClusterConvergence.Json.Quoted
import ClusterConvergence.Number.Shortest
import ClusterConvergence.Text.Dict

/-!
# JSON values

Documents as values, and their compact text.  Members of an object keep the order in which they are
given; `Json.sorted` puts them in ascending order on every level, the form in which the command line
answers.
-/

namespace ClusterConvergence

/-- A JSON value. -/
inductive Json where
  | null
  | bool (b : Bool)
  | integer (i : Int)
  | real (x : Float)
  | string (s : String)
  | array (items : List Json)
  | object (members : List (String × Json))

namespace Json

/-- The decimal digits of an integer, behind a sign if it is negative. -/
def integerText (i : Int) : List Char :=
  if i < 0 then '-' :: digitsOf i.natAbs else digitsOf i.natAbs

mutual

/-- The compact text of a value. -/
def chars : Json → List Char
  | .null => ['n', 'u', 'l', 'l']
  | .bool true => ['t', 'r', 'u', 'e']
  | .bool false => ['f', 'a', 'l', 's', 'e']
  | .integer i => integerText i
  | .real x => floatText x
  | .string s => QuoteStyle.document.quote s
  | .array [] => ['[', ']']
  | .array (item :: items) => '[' :: item.chars ++ itemsChars items ++ [']']
  | .object [] => ['{', '}']
  | .object (member :: members) => '{' :: memberChars member ++ membersChars members ++ ['}']

/-- The items of an array behind the first one, each behind its comma. -/
def itemsChars : List Json → List Char
  | [] => []
  | item :: items => ',' :: item.chars ++ itemsChars items

/-- One member of an object. -/
def memberChars : String × Json → List Char
  | (name, value) => QuoteStyle.document.quote name ++ ':' :: value.chars

/-- The members of an object behind the first one, each behind its comma. -/
def membersChars : List (String × Json) → List Char
  | [] => []
  | member :: members => ',' :: memberChars member ++ membersChars members

end

/-- The compact text of a value. -/
def render (j : Json) : String :=
  String.ofList j.chars

mutual

/-- The value with the members of every object in ascending order; of two members with the same name
the later one stays. -/
def sorted : Json → Json
  | .array items => .array (sortedItems items)
  | .object members => .object (sortedMembers Dict.empty members).entries
  | .null => .null
  | .bool b => .bool b
  | .integer i => .integer i
  | .real x => .real x
  | .string s => .string s

/-- The items of an array, each with its members in order. -/
def sortedItems : List Json → List Json
  | [] => []
  | item :: items => item.sorted :: sortedItems items

/-- Add members to a dictionary, the first one first. -/
def sortedMembers (d : Dict Json) : List (String × Json) → Dict Json
  | [] => d
  | (name, value) :: members => sortedMembers (d.insert name value.sorted) members

end

/-! ## Values of common types -/

/-- A natural number. -/
def nat (n : Nat) : Json := .integer n

/-- A list of strings. -/
def strings (l : List String) : Json := .array (l.map .string)

/-- A string that may be missing, as `null`. -/
def stringOrNull : Option String → Json
  | none => .null
  | some s => .string s

/-- A member that is left out when there is no value. -/
def member? (name : String) (value : Option Json) : List (String × Json) :=
  match value with
  | none => []
  | some v => [(name, v)]

/-- A dictionary as an object. -/
def ofDict {β : Type} (f : β → Json) (d : Dict β) : Json :=
  .object (d.entries.map fun e => (e.1, f e.2))

end Json

end ClusterConvergence
