import ClusterConvergence.Json.Doc

/-!
# Decoding documents

Typed values from documents.  A document is decoded either as the text is read or as a value that was
read before; the two differ in one point only, how surplus items of a record written as an array are
reported.  Faults are reported in the order in which they occur.

A record is described by its fields.  It may be written as an object or as an array of its fields in
their order; a field that is not required may be missing, in an array from some point on.
-/

namespace ClusterConvergence

/-- Why a document is refused. -/
inductive DecodeError where
  /-- The text is no JSON, or holds something that no value can. -/
  | malformed
  /-- A value of another type was expected. -/
  | wrongType
  /-- An integer beyond the range of its field. -/
  | outOfRange
  /-- Too few items for a record, or too many. -/
  | wrongLength
  | missingField (name : String)
  | unknownField (name : String)
  | repeatedField (name : String)
  /-- A tag that no alternative has. -/
  | unknownTag (tag : String)
  /-- A text that the type of its field does not know; the reason is that type's own. -/
  | refused (reason : String)
  deriving DecidableEq, Repr

/-- A name between backticks, up to its own first backtick. -/
def ticked (name : String) : String :=
  let tick := String.singleton (Char.ofNat 96)
  tick ++ String.ofList (name.toList.takeWhile (· != Char.ofNat 96)) ++ tick

/-- The wording of a refusal. -/
def DecodeError.message : DecodeError → String
  | .malformed => "syntax"
  | .wrongType => "invalid type"
  | .outOfRange => "invalid value"
  | .wrongLength => "invalid length"
  | .missingField name => "missing field " ++ ticked name
  | .unknownField name => "unknown field " ++ ticked name
  | .repeatedField name => "duplicate field " ++ ticked name
  | .unknownTag tag => "unknown variant " ++ ticked tag
  | .refused reason => reason

/-- Where a document comes from. -/
inductive Source where
  /-- From the text, as it is read. -/
  | text
  /-- From a value that was read before. -/
  | value
  deriving DecidableEq, Repr

/-- A decoder for values of a type. -/
abbrev Decoder (α : Type) : Type := Source → Doc → Except DecodeError α

/-- The refusal of a document of another type; a document that cannot be read is malformed first. -/
def Doc.refusal : Doc → DecodeError
  | .broken => .malformed
  | .oversized => .malformed
  | .unpaired => .malformed
  | _ => .wrongType

namespace Decoder

/-! ## Scalars -/

/-- A string. -/
def string : Decoder String
  | _, .string s => .ok s
  | _, doc => .error doc.refusal

/-- A truth value. -/
def bool : Decoder Bool
  | _, .bool b => .ok b
  | _, doc => .error doc.refusal

/-- An integer from `low` on and below `high`. -/
def integer (low high : Int) : Decoder Int
  | _, .integer i => if low ≤ i ∧ i < high then .ok i else .error .outOfRange
  | _, doc => .error doc.refusal

/-- A natural number of 16 bits. -/
def uint16 : Decoder UInt16 := fun source doc =>
  (integer 0 UInt16.size source doc).map fun i => UInt16.ofNat i.toNat

/-- A natural number of 32 bits. -/
def uint32 : Decoder UInt32 := fun source doc =>
  (integer 0 UInt32.size source doc).map fun i => UInt32.ofNat i.toNat

/-- A natural number of 64 bits. -/
def uint64 : Decoder UInt64 := fun source doc =>
  (integer 0 UInt64.size source doc).map fun i => UInt64.ofNat i.toNat

/-- An integer of 32 bits. -/
def int32 : Decoder Int32 := fun source doc =>
  (integer Int32.minValue.toInt (Int32.maxValue.toInt + 1) source doc).map Int32.ofInt

/-- A number of either kind. -/
def float : Decoder Float
  | _, .real x => .ok x
  | _, .integer i => .ok (Float.ofInt i)
  | _, doc => .error doc.refusal

/-! ## Containers -/

/-- A value that may be absent, written as `null`. -/
def optional {α : Type} (decode : Decoder α) : Decoder (Option α)
  | _, .null => .ok none
  | source, doc => (decode source doc).map some

/-- The items of an array, in order. -/
def items {α : Type} (decode : Decoder α) (source : Source) : List Doc → Except DecodeError (List α)
  | [] => .ok []
  | doc :: docs => do
    let a ← decode source doc
    let as ← items decode source docs
    return a :: as

/-- An array of values of one type. -/
def list {α : Type} (decode : Decoder α) : Decoder (List α)
  | source, .array docs => items decode source docs
  | _, doc => .error doc.refusal

/-- The members of an object, entered one after the other. -/
def entries {β : Type} (decode : Decoder β) (source : Source) (d : Dict β) :
    List (Option String × Doc) → Except DecodeError (Dict β)
  | [] => .ok d
  | (none, _) :: _ => .error .malformed
  | (some name, doc) :: members => do
    let value ← decode source doc
    entries decode source (d.insert name value) members

/-- An object with names of one's own choice; of two members with the same name the later counts. -/
def dict {β : Type} (decode : Decoder β) : Decoder (Dict β)
  | source, .object members => entries decode source Dict.empty members
  | _, doc => .error doc.refusal

/-! ## Records -/

/-- A field of the record type `ρ`. -/
structure Field (ρ : Type) where
  name : String
  /-- Whether the field has to be present. -/
  required : Bool
  /-- Decode the field's value and put it into the record. -/
  store : Source → Doc → ρ → Except DecodeError ρ

/-- The field that `put` sets.  One that is not required keeps its initial value when it is missing. -/
def field {ρ α : Type} (name : String) (decode : Decoder α) (put : ρ → α → ρ)
    (required : Bool := true) : Field ρ where
  name := name
  required := required
  store source doc record := (decode source doc).map (put record)

/-- A record type: its fields in their order, and what becomes of members with other names. -/
structure Shape (ρ : Type) where
  fields : List (Field ρ)
  /-- Whether members with other names are refused; otherwise they are passed over. -/
  closed : Bool := false

namespace Shape

variable {ρ : Type}

/-- The field with a name. -/
def field? (shape : Shape ρ) (name : String) : Option (Field ρ) :=
  shape.fields.find? (·.name == name)

/-- The first required field that has not been seen. -/
def missing? (shape : Shape ρ) (seen : List String) : Option String :=
  (shape.fields.find? fun f => f.required && !seen.contains f.name).map (·.name)

/-- Decode the members of an object in order; `seen` names the fields that came before. -/
def fromMembers (shape : Shape ρ) (source : Source) (seen : List String) (record : ρ) :
    List (Option String × Doc) → Except DecodeError ρ
  | [] =>
    match shape.missing? seen with
    | some name => .error (.missingField name)
    | none => .ok record
  | (none, _) :: _ => .error .malformed
  | (some name, doc) :: members =>
    match shape.field? name with
    | some field =>
      if seen.contains name then .error (.repeatedField name)
      else do
        let record ← field.store source doc record
        shape.fromMembers source (name :: seen) record members
    | none =>
      if shape.closed then .error (.unknownField name)
      else if doc.passable then shape.fromMembers source seen record members
      else .error .malformed

/-- Decode the items of an array as the fields in their order. -/
def fromItems (source : Source) (record : ρ) : List (Field ρ) → List Doc → Except DecodeError ρ
  | [], [] => .ok record
  | [], _ :: _ =>
    match source with
    | .text => .error .malformed
    | .value => .error .wrongLength
  | field :: fields, [] =>
    if field.required then .error .wrongLength else fromItems source record fields []
  | field :: fields, doc :: docs => do
    let record ← field.store source doc record
    fromItems source record fields docs

/-- Decode a record; `record` holds the values of the fields that may be missing. -/
def decode (shape : Shape ρ) (record : ρ) : Decoder ρ
  | source, .object members => shape.fromMembers source [] record members
  | source, .array docs => fromItems source record shape.fields docs
  | _, doc => .error doc.refusal

end Shape

/-! ## Whole texts -/

/-- Decode a text that holds one document and nothing else. -/
def run {α : Type} (decode : Decoder α) (text : String) : Except DecodeError α := do
  let (doc, ended) := Doc.read text
  let a ← decode .text doc
  if ended then return a else throw .malformed

/-- Decode a value. -/
def ofJson {α : Type} (decode : Decoder α) (j : Json) : Except DecodeError α :=
  decode .value j.toDoc

end Decoder

end ClusterConvergence
