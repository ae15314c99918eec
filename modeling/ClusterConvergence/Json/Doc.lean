import ClusterConvergence.Json.Value

/-!
# JSON texts

What a reader has seen of a text.  A text that breaks off, or that is no JSON from some point on, is
still read up to that point: a `Doc` shows the part before in the order of the text and marks the
point with `broken`.  A decoder that walks a `Doc` in order therefore meets the first fault of the
text first, whether it is a fault of the notation or of the content.

A `Doc` keeps what a value cannot hold but a reader may pass over: strings with half of a pair,
numbers beyond the largest double, and members of the same name.

`Json.toDoc` is the view of a value as a text without faults; reading a value's text gives that view.
-/

namespace ClusterConvergence

/-- What a reader has seen of a JSON text. -/
inductive Doc where
  | null
  | bool (b : Bool)
  /-- An integer between `-2 ^ 63` and `2 ^ 64 - 1`, written without point and exponent. -/
  | integer (i : Int)
  /-- Any other number. -/
  | real (x : Float)
  /-- A number beyond the largest double. -/
  | oversized
  | string (s : String)
  /-- A string with half of a pair. -/
  | unpaired
  | array (items : List Doc)
  /-- The members in the order of the text; a name with half of a pair is missing. -/
  | object (members : List (Option String × Doc))
  /-- Here the text stops being JSON; nothing is known of what follows. -/
  | broken

/-! ## Numbers -/

/-- A span of digits at the front, and what follows it. -/
def spanDigits (cs : List Char) : List Char × List Char :=
  (cs.takeWhile Char.isDigit, cs.dropWhile Char.isDigit)

/-- The digits behind a point, if one comes next; there has to be one at least. -/
def readFraction : List Char → Option (Option (List Char) × List Char)
  | '.' :: rest =>
    match spanDigits rest with
    | ([], _) => none
    | (digits, rest) => some (some digits, rest)
  | rest => some (none, rest)

/-- The power of ten behind an `e`, if one comes next; there has to be a digit at least. -/
def readExponent (cs : List Char) : Option (Option Int × List Char) :=
  match cs with
  | c :: rest =>
    if c = 'e' || c = 'E' then
      let (negative, rest) :=
        match rest with
        | '-' :: rest => (true, rest)
        | '+' :: rest => (false, rest)
        | rest => (false, rest)
      match spanDigits rest with
      | ([], _) => none
      | (digits, rest) =>
        some (some (if negative then -(ofDigits digits : Int) else ofDigits digits), rest)
    else some (none, cs)
  | [] => some (none, cs)

/-- A number with a point or an exponent, or with too many digits for an integer. -/
def realDoc (negative : Bool) (whole fraction : List Char) (exponent : Int) : Doc :=
  match Scaled.ofParts? whole fraction exponent with
  | none => .oversized
  | some x => .real (if negative then -x else x)

/-- An integer, or a real when it does not fit 64 bits.  There is no negative integer zero. -/
def integerDoc (negative : Bool) (whole : List Char) : Doc :=
  let n := ofDigits whole
  if negative then
    if 0 < n && n ≤ UInt64.size / 2 then .integer (-(n : Int)) else realDoc negative whole [] 0
  else
    if n < UInt64.size then .integer n else realDoc negative whole [] 0

/-- Read a number: no leading zeros, a digit on both sides of a point, a digit behind an `e`. -/
def readNumber (cs : List Char) : Option (Doc × List Char) :=
  let (negative, cs) :=
    match cs with
    | '-' :: rest => (true, rest)
    | cs => (false, cs)
  match spanDigits cs with
  | ([], _) => none
  | ('0' :: _ :: _, _) => none
  | (whole, rest) =>
    match readFraction rest with
    | none => none
    | some (fraction, rest) =>
      match readExponent rest with
      | none => none
      | some (exponent, rest) =>
        match fraction, exponent with
        | none, none => some (integerDoc negative whole, rest)
        | fraction, exponent =>
          some (realDoc negative whole (fraction.getD []) (exponent.getD 0), rest)

/-! ## Values -/

/-- Whether a character may stand between the parts of a text. -/
def isGap (c : Char) : Bool :=
  c = ' ' || c = '\n' || c = '\t' || c = '\r'

/-- A text behind its leading gap. -/
def skipGap (cs : List Char) : List Char :=
  cs.dropWhile isGap

mutual

/-- Read one value: the value, and what follows it; nothing follows a text that broke off.  `fuel`
bounds the number of steps. -/
def readDoc : Nat → List Char → Doc × Option (List Char)
  | 0, _ => (.broken, none)
  | fuel + 1, cs =>
    match skipGap cs with
    | '{' :: rest =>
      match skipGap rest with
      | '}' :: rest => (.object [], some rest)
      | rest =>
        let (members, rest) := readMembers fuel rest
        (.object members, rest)
    | '[' :: rest =>
      match skipGap rest with
      | ']' :: rest => (.array [], some rest)
      | rest =>
        let (items, rest) := readItems fuel rest
        (.array items, rest)
    | '"' :: rest =>
      match readQuoted {} rest with
      | none => (.broken, none)
      | some (none, rest) => (.unpaired, some rest)
      | some (some s, rest) => (.string s, some rest)
    | 'n' :: 'u' :: 'l' :: 'l' :: rest => (.null, some rest)
    | 't' :: 'r' :: 'u' :: 'e' :: rest => (.bool true, some rest)
    | 'f' :: 'a' :: 'l' :: 's' :: 'e' :: rest => (.bool false, some rest)
    | rest =>
      match readNumber rest with
      | none => (.broken, none)
      | some (number, rest) => (number, some rest)

/-- Read the items of an array, at least one, up to its closing bracket. -/
def readItems : Nat → List Char → List Doc × Option (List Char)
  | 0, _ => ([.broken], none)
  | fuel + 1, cs =>
    match readDoc fuel cs with
    | (item, none) => ([item], none)
    | (item, some rest) =>
      match skipGap rest with
      | ']' :: rest => ([item], some rest)
      | ',' :: rest =>
        let (items, rest) := readItems fuel rest
        (item :: items, rest)
      | _ => ([item, .broken], none)

/-- Read the members of an object, at least one, up to its closing brace. -/
def readMembers : Nat → List Char → List (Option String × Doc) × Option (List Char)
  | 0, _ => ([(none, .broken)], none)
  | fuel + 1, cs =>
    match skipGap cs with
    | '"' :: rest =>
      match readQuoted {} rest with
      | none => ([(none, .broken)], none)
      | some (name, rest) =>
        match skipGap rest with
        | ':' :: rest =>
          match readDoc fuel rest with
          | (value, none) => ([(name, value)], none)
          | (value, some rest) =>
            match skipGap rest with
            | '}' :: rest => ([(name, value)], some rest)
            | ',' :: rest =>
              let (members, rest) := readMembers fuel rest
              ((name, value) :: members, rest)
            | _ => ([(name, value), (none, .broken)], none)
        | _ => ([(name, .broken)], none)
    | _ => ([(none, .broken)], none)

end

namespace Doc

/-- Read a whole text: what was seen, and whether nothing but a gap follows it.  Each step of the
reader is paid by a character, and none by more than two steps. -/
def read (text : String) : Doc × Bool :=
  let cs := text.toList
  match readDoc (2 * cs.length + 2) cs with
  | (doc, none) => (doc, false)
  | (doc, some rest) => (doc, (skipGap rest).isEmpty)

/-! ## Passing over, and taking as it is -/

mutual

/-- Whether a reader that does not care about the content can pass over it. -/
def passable : Doc → Bool
  | .broken => false
  | .array items => passableItems items
  | .object members => passableMembers members
  | _ => true

/-- Whether every item can be passed over. -/
def passableItems : List Doc → Bool
  | [] => true
  | item :: items => item.passable && passableItems items

/-- Whether every member can be passed over. -/
def passableMembers : List (Option String × Doc) → Bool
  | [] => true
  | (_, value) :: members => value.passable && passableMembers members

end

mutual

/-- The value of a text without faults whose arrays and objects are nested at most `depth` deep; the
members stay as they are. -/
def value? (depth : Nat) : Doc → Option Json
  | .null => some .null
  | .bool b => some (.bool b)
  | .integer i => some (.integer i)
  | .real x => some (.real x)
  | .oversized => none
  | .string s => some (.string s)
  | .unpaired => none
  | .array items =>
    match depth with
    | 0 => none
    | depth + 1 => (itemValues? depth items).map .array
  | .object members =>
    match depth with
    | 0 => none
    | depth + 1 => (memberValues? depth members).map .object
  | .broken => none

/-- The values of the items of an array. -/
def itemValues? (depth : Nat) : List Doc → Option (List Json)
  | [] => some []
  | item :: items =>
    match item.value? depth, itemValues? depth items with
    | some j, some js => some (j :: js)
    | _, _ => none

/-- The values of the members of an object. -/
def memberValues? (depth : Nat) : List (Option String × Doc) → Option (List (String × Json))
  | [] => some []
  | (name, value) :: members =>
    match name, value.value? depth, memberValues? depth members with
    | some name, some j, some js => some ((name, j) :: js)
    | _, _, _ => none

end

/-- How deep arrays and objects may be nested in a text whose content matters. -/
def depthLimit : Nat := 127

end Doc

namespace Json

mutual

/-- A value as a text without faults. -/
def toDoc : Json → Doc
  | .null => .null
  | .bool b => .bool b
  | .integer i => .integer i
  | .real x => .real x
  | .string s => .string s
  | .array items => .array (itemDocs items)
  | .object members => .object (memberDocs members)

/-- The items of an array as texts. -/
def itemDocs : List Json → List Doc
  | [] => []
  | item :: items => item.toDoc :: itemDocs items

/-- The members of an object as texts. -/
def memberDocs : List (String × Json) → List (Option String × Doc)
  | [] => []
  | (name, value) :: members => (some name, value.toDoc) :: memberDocs members

end

end Json

end ClusterConvergence
