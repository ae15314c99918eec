import Mathlib.Data.List.Forall2
import ClusterConvergence.Json.Decode
import ClusterConvergence.Proofs.Json.Text

/-!
# Decoding what was encoded

A decoder reads a value from a document if it takes that value out of it, whether the document comes
from a text or from a value.  There is one rule for each kind of decoder, so that a codec is correct
by the rules of its parts.  The members of a record are read one after the other; one that was left
out is read as absent.

Main statements: `Decoder.Reads.run_render`, that a value is decoded from the text of its document,
and `Decoder.Reads.list`, `Decoder.Reads.dict`, `Shape.fromMembers_field` and
`Shape.fromMembers_member?` for what documents are made of.
-/

namespace ClusterConvergence

open Json

theorem Json.memberDocs_append (a b : List (String × Json)) :
    memberDocs (a ++ b) = memberDocs a ++ memberDocs b := by
  induction a with
  | nil => rfl
  | cons e a ih => rw [List.cons_append, memberDocs, memberDocs, ih, List.cons_append]

namespace Decoder

variable {α β ρ : Type}

/-- A decoder takes this value out of this document. -/
def Reads (decode : Decoder α) (a : α) (j : Json) : Prop :=
  ∀ source, decode source j.toDoc = .ok a

/-! ## Scalars -/

theorem reads_string (s : String) : Reads string s (.string s) :=
  fun _ => rfl

theorem reads_bool (b : Bool) : Reads bool b (.bool b) :=
  fun _ => rfl

theorem reads_float (x : Float) : Reads float x (.real x) :=
  fun _ => rfl

theorem reads_integer {low high i : Int} (h : low ≤ i ∧ i < high) :
    Reads (integer low high) i (.integer i) :=
  fun _ => if_pos h

theorem reads_uint32 (n : UInt32) : Reads uint32 n (.nat n.toNat) := by
  intro source
  have hrange : (0 : Int) ≤ n.toNat ∧ (n.toNat : Int) < UInt32.size :=
    ⟨Int.natCast_nonneg _, Int.ofNat_lt.2 n.toNat_lt_size⟩
  rw [uint32, Json.nat, reads_integer hrange source]
  exact congrArg Except.ok (UInt32.ofNat_toNat)

theorem reads_uint64 (n : UInt64) : Reads uint64 n (.nat n.toNat) := by
  intro source
  have hrange : (0 : Int) ≤ n.toNat ∧ (n.toNat : Int) < UInt64.size :=
    ⟨Int.natCast_nonneg _, Int.ofNat_lt.2 n.toNat_lt_size⟩
  rw [uint64, Json.nat, reads_integer hrange source]
  exact congrArg Except.ok (UInt64.ofNat_toNat)

theorem reads_int32 (n : Int32) : Reads int32 n (.integer n.toInt) := by
  intro source
  have hrange : Int32.minValue.toInt ≤ n.toInt ∧ n.toInt < Int32.maxValue.toInt + 1 :=
    ⟨n.minValue_le_toInt, Int.lt_add_one_of_le n.toInt_le⟩
  rw [int32, reads_integer hrange source]
  exact congrArg Except.ok (Int32.ofInt_toInt n)

namespace Reads

variable {decode : Decoder α} {a : α} {j : Json}

theorem optional (h : Reads decode a j) (hnull : j ≠ .null) :
    Reads (Decoder.optional decode) (some a) j := by
  intro source
  rw [Decoder.optional, h source]
  · rfl
  · intro heq
    cases j <;> first | exact hnull rfl | cases heq

/-! ## Containers -/

/-- What is read from each item is read from all of them. -/
theorem array {l : List α} {items : List Json} (h : List.Forall₂ (Reads decode) l items) :
    Reads (Decoder.list decode) l (.array items) := by
  intro source
  rw [toDoc, Decoder.list]
  induction h with
  | nil => rfl
  | cons hfirst _ ih =>
    rw [itemDocs, Decoder.items, hfirst source, ih]
    rfl

theorem list {l : List α} {encode : α → Json} (h : ∀ a ∈ l, Reads decode a (encode a)) :
    Reads (Decoder.list decode) l (.array (l.map encode)) :=
  array (List.forall₂_map_right_iff.2 (List.forall₂_same.2 h))

theorem entries {decode : Decoder β} {encode : β → Json} (h : ∀ b, Reads decode b (encode b))
    (source : Source) (d : Dict β) (l : List (String × β)) :
    Decoder.entries decode source d (memberDocs (l.map fun e => (e.1, encode e.2))) =
      .ok (l.foldl (fun d e => d.insert e.1 e.2) d) := by
  induction l generalizing d with
  | nil => rfl
  | cons e l ih =>
    rw [List.map_cons, memberDocs, Decoder.entries, h e.2 source]
    exact ih (d.insert e.1 e.2)

theorem dict {decode : Decoder β} {encode : β → Json} (h : ∀ b, Reads decode b (encode b))
    (d : Dict β) : Reads (Decoder.dict decode) d (ofDict encode d) := by
  intro source
  rw [ofDict, toDoc, Decoder.dict, entries h]
  exact congrArg Except.ok d.ofList_entries

/-! ## Whole texts -/

/-- What a decoder reads from a document, it reads from the text of the document. -/
theorem run_render (h : Reads decode a j) (hlegible : j.Legible) : run decode j.render = .ok a := by
  rw [run, read_render hlegible]
  dsimp only
  rw [h .text]
  rfl

end Reads

/-! ## Records -/

namespace Shape

variable {shape : Shape ρ} {name : String} {decode : Decoder α} {put : ρ → α → ρ} {source : Source}
  {seen bound : List String} {record : ρ} {members : List (Option String × Doc)}

theorem fromMembers_field {required : Bool} {a : α} {j : Json}
    (hfield : shape.field? name = some (field name decode put required)) (hseen : name ∉ seen)
    (h : Reads decode a j) :
    shape.fromMembers source seen record ((some name, j.toDoc) :: members) =
      shape.fromMembers source (name :: seen) (put record a) members := by
  have hnew : seen.contains name = false := by simpa using hseen
  rw [fromMembers, hfield]
  simp only [hnew, field, h source]
  rfl

/-- A member that may have been left out is read as what it stands for.  Which fields came before is
known only up to those that were left out. -/
theorem fromMembers_member? {put : ρ → Option α → ρ} {o : Option α} {encode : α → Json}
    {result : Except DecodeError ρ} (hbound : seen ⊆ bound)
    (hfield : shape.field? name = some (field name (.optional decode) put false))
    (hname : name ∉ bound) (habsent : put record none = record)
    (h : ∀ a, Reads decode a (encode a)) (hnull : ∀ a, encode a ≠ .null)
    (hrest : ∀ seen, seen ⊆ name :: bound →
      shape.fromMembers source seen (put record o) members = result) :
    shape.fromMembers source seen record (memberDocs (member? name (o.map encode)) ++ members) =
      result := by
  cases o with
  | none =>
    -- the name does not count as seen, so what was seen is bounded and not known
    rw [habsent] at hrest
    exact hrest seen (List.subset_cons_of_subset name hbound)
  | some a =>
    show shape.fromMembers source seen record ((some name, (encode a).toDoc) :: members) = result
    rw [fromMembers_field hfield (fun hmem => hname (hbound hmem)) ((h a).optional (hnull a))]
    exact hrest (name :: seen) (List.cons_subset_cons name hbound)

end Shape

end Decoder

end ClusterConvergence
