import Mathlib.Algebra.Group.Int.Defs
import ClusterConvergence.Json.Doc
import ClusterConvergence.Proofs.Json.Quoted

/-!
# Reading back numbers

The text of a number shows where it ends only by what follows it.  A number is therefore read back
where nothing follows it or what may follow a value: a comma or a closing bracket.

Main statements: `readNumber_integerText` for the integers of 64 bits, with a sign or without,
`restorable_zero`, `restorable_negative_zero` and `restorable_one` for the doubles that a reply holds,
and `unbroken_floatText`.
-/

namespace ClusterConvergence

/-- What may follow a value. -/
def Delimited (rest : List Char) : Prop :=
  ∀ c ∈ rest.head?, c = ',' ∨ c = ']' ∨ c = '}'

theorem delimited_nil : Delimited [] :=
  nofun

theorem delimited_cons {c : Char} {rest : List Char} :
    Delimited (c :: rest) ↔ c = ',' ∨ c = ']' ∨ c = '}' := by
  simp [Delimited]

/-! ## The parts of a number -/

theorem spanDigits_append {digits rest : List Char} (hdigits : ∀ c ∈ digits, c.isDigit = true)
    (hrest : ∀ c ∈ rest.head?, c.isDigit = false) : spanDigits (digits ++ rest) = (digits, rest) := by
  have hend : rest.takeWhile Char.isDigit = [] ∧ rest.dropWhile Char.isDigit = rest := by
    cases rest with
    | nil => exact ⟨rfl, rfl⟩
    | cons c rest =>
      have hc : c.isDigit = false := hrest c rfl
      simp [hc]
  rw [spanDigits, List.takeWhile_append_of_pos hdigits, List.dropWhile_append_of_pos hdigits,
    hend.1, hend.2, List.append_nil]

namespace Delimited

variable {rest : List Char}

theorem not_isDigit (h : Delimited rest) : ∀ c ∈ rest.head?, c.isDigit = false := by
  intro c hc
  rcases h c hc with rfl | rfl | rfl <;> decide

theorem readFraction_none (h : Delimited rest) : readFraction rest = some (none, rest) := by
  rw [readFraction]
  rintro rest rfl
  rcases delimited_cons.1 h with h | h | h <;> cases h

theorem readFraction_some {fraction : List Char} (h : Delimited rest) (hne : fraction ≠ [])
    (hdigits : ∀ c ∈ fraction, c.isDigit = true) :
    readFraction ('.' :: (fraction ++ rest)) = some (some fraction, rest) := by
  rw [readFraction]
  simp only [spanDigits_append hdigits h.not_isDigit]

theorem readExponent_none (h : Delimited rest) : readExponent rest = some (none, rest) := by
  cases rest with
  | nil => rfl
  | cons c rest =>
    rcases delimited_cons.1 h with rfl | rfl | rfl <;> simp [readExponent]

end Delimited

/-- The sign of a number, if it is negative. -/
def signText (negative : Bool) : List Char :=
  if negative then ['-'] else []

/-- A number without exponent; without a point it is an integer. -/
def plainDoc (negative : Bool) (whole : List Char) : Option (List Char) → Doc
  | none => integerDoc negative whole
  | some fraction => realDoc negative whole fraction 0

/-- Digits without a needless zero are read up to their end, and then perhaps a point and more
digits. -/
theorem readNumber_plain {negative : Bool} {whole tail rest : List Char}
    {fraction : Option (List Char)} (hne : whole ≠ [])
    (hdigits : ∀ c ∈ whole, c.isDigit = true) (hzero : ∀ c cs, whole ≠ '0' :: c :: cs)
    (htail : ∀ c ∈ tail.head?, c.isDigit = false)
    (hfraction : readFraction tail = some (fraction, rest)) (hrest : Delimited rest) :
    readNumber (signText negative ++ (whole ++ tail)) =
      some (plainDoc negative whole fraction, rest) := by
  have hnosign : ∀ cs, whole ++ tail = '-' :: cs → False := by
    intro cs heq
    obtain ⟨d, ds, rfl⟩ := List.exists_cons_of_ne_nil hne
    obtain ⟨rfl, -⟩ := List.cons.inj heq
    cases hdigits '-' List.mem_cons_self
  unfold readNumber
  split
  next negative' cs hsplit =>
  have hsign : negative' = negative ∧ cs = whole ++ tail := by
    cases negative with
    | true =>
      cases hsplit
      exact ⟨rfl, rfl⟩
    | false =>
      split at hsplit
      · next cs' heq => exact (hnosign cs' heq).elim
      · cases hsplit
        exact ⟨rfl, rfl⟩
  obtain ⟨rfl, rfl⟩ := hsign
  simp only [spanDigits_append hdigits htail, hfraction, hrest.readExponent_none]
  cases fraction <;> rfl

/-! ## Integers -/

theorem digitsOf_ne_nil {n : Nat} : digitsOf n ≠ [] :=
  Nat.toDigits_ne_nil

theorem isDigit_of_mem_digitsOf {n : Nat} {c : Char} (h : c ∈ digitsOf n) : c.isDigit = true :=
  Nat.isDigit_of_mem_toDigits (by decide) (by decide) h

theorem ofDigits_digitsOf (n : Nat) : ofDigits (digitsOf n) = n :=
  Nat.ofDigitChars_eq_foldl.symm.trans Nat.ofDigitChars_ten_toDigits

/-- Only zero begins with a zero. -/
theorem eq_zero_of_head_digitsOf {n : Nat} (h : (digitsOf n).head? = some '0') : n = 0 := by
  -- the last digit is taken off, and the first one stays
  induction n using Nat.strongRecOn with
  | ind n ih =>
    rw [digitsOf, Nat.toDigits_eq_if (by decide)] at h
    split at h
    · clear ih
      revert n
      decide
    · have hhead : (digitsOf (n / 10)).head? = some '0' := by
        obtain ⟨d, ds, heq⟩ := List.exists_cons_of_ne_nil (@digitsOf_ne_nil (n / 10))
        rw [digitsOf] at heq ⊢
        rw [heq] at h ⊢
        exact h
      have hzero : n / 10 = 0 := ih (n / 10) (by omega) hhead
      omega

/-- An integer that fits 64 bits, as a negative number or as a natural one, is read back. -/
theorem readNumber_integerText {i : Int} (hlow : -2 ^ 63 ≤ i) (hhigh : i < 2 ^ 64)
    {rest : List Char} (hrest : Delimited rest) :
    readNumber (Json.integerText i ++ rest) = some (.integer i, rest) := by
  have hzero : ∀ c cs, digitsOf i.natAbs ≠ '0' :: c :: cs := by
    intro c cs h
    rw [eq_zero_of_head_digitsOf (congrArg List.head? h)] at h
    cases h
  have htext : Json.integerText i = signText (decide (i < 0)) ++ digitsOf i.natAbs := by
    by_cases hneg : i < 0 <;> simp [Json.integerText, signText, hneg]
  rw [htext, List.append_assoc, readNumber_plain digitsOf_ne_nil
    (fun _ => isDigit_of_mem_digitsOf) hzero hrest.not_isDigit hrest.readFraction_none hrest,
    plainDoc, integerDoc, ofDigits_digitsOf]
  by_cases hneg : i < 0
  · have hfits : (decide (0 < i.natAbs) && decide (i.natAbs ≤ UInt64.size / 2)) = true := by
      simp only [UInt64.size, Bool.and_eq_true, decide_eq_true_eq]
      omega
    have hvalue : -(i.natAbs : Int) = i := by omega
    rw [if_pos (decide_eq_true hneg), if_pos hfits, hvalue]
  · have hfits : i.natAbs < UInt64.size := by
      simp only [UInt64.size]
      omega
    have hvalue : (i.natAbs : Int) = i := by omega
    rw [if_neg (by simpa using hneg), if_pos hfits, hvalue]

/-! ## Doubles -/

/-- A double that is read back from its text. -/
def Restorable (x : Float) : Prop :=
  ∀ rest, Delimited rest → readNumber (floatText x ++ rest) = some (.real x, rest)

/-- A double whose text has one digit on either side of the point, if the digits stand for it. -/
theorem restorable_of_point {x : Float} (negative : Bool) (whole fraction : Char)
    (htext : floatText (if negative then -x else x) = signText negative ++ [whole, '.', fraction])
    (hwhole : whole.isDigit = true) (hfraction : fraction.isDigit = true)
    (hvalue : Scaled.ofParts? [whole] [fraction] 0 = some x) :
    Restorable (if negative then -x else x) := by
  intro rest hrest
  have hpoint : ∀ c ∈ ('.' :: (([fraction] : List Char) ++ rest)).head?, c.isDigit = false := by
    rintro c ⟨⟩
    decide
  have hread := @readNumber_plain negative [whole] _ rest _ (List.cons_ne_nil whole [])
    (List.forall_mem_singleton.2 hwhole) nofun hpoint
    (hrest.readFraction_some (List.cons_ne_nil fraction [])
      (List.forall_mem_singleton.2 hfraction)) hrest
  rw [plainDoc, realDoc, hvalue] at hread
  rwa [htext, List.append_assoc]

-- The digits of a double are computed on its bits, which only the kernel evaluates.

theorem ofParts?_zero : Scaled.ofParts? ['0'] ['0'] 0 = some 0.0 := by
  decide +kernel

theorem restorable_zero : Restorable 0.0 :=
  restorable_of_point false '0' '0' (by decide +kernel) (by decide) (by decide) ofParts?_zero

theorem restorable_negative_zero : Restorable (-0.0) :=
  restorable_of_point true '0' '0' (by decide +kernel) (by decide) (by decide) ofParts?_zero

theorem restorable_one : Restorable 1.0 :=
  restorable_of_point false '1' '0' (by decide +kernel) (by decide) (by decide)
    (by decide +kernel)

/-! ## Visible characters -/

theorem unbroken_digitsOf (n : Nat) : Unbroken (digitsOf n) := by
  intro c hc
  have hdigit := isDigit_of_mem_digitsOf hc
  rw [Char.isDigit, Bool.and_eq_true, decide_eq_true_eq] at hdigit
  exact Nat.le_trans (by decide) (UInt32.le_iff_toNat_le.1 hdigit.1)

theorem unbroken_integerText (i : Int) : Unbroken (Json.integerText i) := by
  rw [Json.integerText]
  split <;> simp [unbroken_digitsOf]

theorem unbroken_replicate_zero (n : Nat) : Unbroken (List.replicate n '0') := by
  intro c hc
  rw [List.eq_of_mem_replicate hc]
  decide

theorem unbroken_floatText (x : Float) : Unbroken (floatText x) := by
  have hsign : Unbroken (if (x.toBits.toNat >>> 63) % 2 = 1 then ['-'] else []) := by
    split <;> simp
  unfold floatText
  dsimp only
  split
  · simp [hsign]
  · next decimal _ =>
    have hdigits := unbroken_digitsOf decimal.digits
    generalize digitsOf decimal.digits = digits at hdigits
    have htake : ∀ n, Unbroken (digits.take n) := fun n c hc => hdigits c (List.mem_of_mem_take hc)
    have hdrop : ∀ n, Unbroken (digits.drop n) := fun n c hc => hdigits c (List.mem_of_mem_drop hc)
    refine unbroken_append.2 ⟨hsign, ?_⟩
    split
    · simp [hdigits, unbroken_replicate_zero]
    · split
      · simp [htake, hdrop]
      · split
        · simp [hdigits, unbroken_replicate_zero]
        · generalize (digits.length : Int) + decimal.exponent = point
          have hpower : Unbroken
              ('e' :: (if point ≤ 0 then '-' else '+') :: digitsOf (point - 1).natAbs) := by
            simp only [unbroken_cons, unbroken_digitsOf, and_true]
            split <;> decide
          split
          · exact unbroken_cons.2 ⟨(unbroken_cons.1 hdigits).1, hpower⟩
          · obtain ⟨hfirst, hrest⟩ := unbroken_cons.1 hdigits
            simp [hfirst, hrest, hpower]
          · exact hpower

end ClusterConvergence
