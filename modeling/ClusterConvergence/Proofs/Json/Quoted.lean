import ClusterConvergence.Json.Quoted

/-!
# Reading back what was quoted

A style is faithful if the reader understands each of its written forms: a letter stands for the
character that it was chosen for, a character that is written as itself has no meaning of its own
between quotes, and what is written with hexadecimal digits is no half of a pair.

Main statements: `readQuoted_quote` says that a quoted string is read back as it was, whatever
follows it, and `QuoteStyle.Faithful.unbroken_quote` that there is no line break in it.
-/

namespace ClusterConvergence

/-- No character of a text is below the blank; such a text does not leave its line. -/
def Unbroken (cs : List Char) : Prop :=
  ∀ c ∈ cs, 0x20 ≤ c.toNat

@[simp] theorem unbroken_nil : Unbroken [] :=
  List.forall_mem_nil _

@[simp] theorem unbroken_cons {c : Char} {cs : List Char} :
    Unbroken (c :: cs) ↔ 0x20 ≤ c.toNat ∧ Unbroken cs :=
  List.forall_mem_cons

@[simp] theorem unbroken_append {as bs : List Char} :
    Unbroken (as ++ bs) ↔ Unbroken as ∧ Unbroken bs :=
  List.forall_mem_append

/-! ## Hexadecimal digits -/

theorem hexDigit?_hexDigit : ∀ n < 16, hexDigit? (hexDigit n) = some n := by
  decide

theorem blank_le_hexDigit : ∀ n < 16, 0x20 ≤ (hexDigit n).toNat := by
  decide

theorem unbroken_hexQuad (n : Nat) : Unbroken (hexQuad n) := by
  have hdigit : ∀ m, 0x20 ≤ (hexDigit (m % 16)).toNat :=
    fun m => blank_le_hexDigit _ (Nat.mod_lt _ (by decide))
  simp only [hexQuad, unbroken_cons, unbroken_nil, hdigit, and_true]

/-! ## One character -/

section OneCharacter

variable {p : QuotedPart} {rest : List Char}

theorem readQuoted_bare {c : Char} (hblank : 0x20 ≤ c.toNat) (hquote : c ≠ '"')
    (hbackslash : c ≠ '\\') : readQuoted p (c :: rest) = readQuoted (p.push c) rest := by
  rw [readQuoted]
  · have hraw : (decide (c.toNat < 0x20) || decide (c = '\\')) = false := by
      simp [hbackslash, Nat.not_lt.2 hblank]
    rw [hraw, if_neg nofun]
  · exact hquote
  · exact fun _ _ _ _ _ h _ => hbackslash h
  · exact fun _ _ h _ => hbackslash h

theorem readQuoted_letter {c letter : Char} (h : unescape? letter = some c) :
    readQuoted p ('\\' :: letter :: rest) = readQuoted (p.push c) rest := by
  rw [readQuoted]
  · rw [h]
  · -- no character has the letter that announces hexadecimal digits
    rintro _ _ _ _ _ rfl -
    cases h

theorem readQuoted_hexQuad {n : Nat} (h : n < 65536) :
    readQuoted p ('\\' :: 'u' :: (hexQuad n ++ rest)) = readQuoted (p.pushUnit n) rest := by
  have hdigit : ∀ m, hexDigit? (hexDigit (m % 16)) = some (m % 16) :=
    fun m => hexDigit?_hexDigit _ (Nat.mod_lt _ (by decide))
  have hvalue : 4096 * (n / 4096 % 16) + 256 * (n / 256 % 16) + 16 * (n / 16 % 16) + n % 16 = n := by
    omega
  have hquad : hexQuad? (hexDigit (n / 4096 % 16)) (hexDigit (n / 256 % 16))
      (hexDigit (n / 16 % 16)) (hexDigit (n % 16)) = some n := by
    simp only [hexQuad?, hdigit, Option.pure_def, Option.bind_eq_bind, Option.bind_some, hvalue]
  rw [hexQuad, List.cons_append, List.cons_append, List.cons_append, List.cons_append,
    List.nil_append, readQuoted, hquad]

end OneCharacter

/-! ## Whole strings -/

/-- The reader understands what a style writes. -/
structure QuoteStyle.Faithful (style : QuoteStyle) : Prop where
  letter : ∀ c letter, style.letter? c = some letter → unescape? letter = some c
  hexed : ∀ c, style.hexed c = true → c.toNat < 0xD800
  bare : ∀ c, style.letter? c = none → style.hexed c = false →
    0x20 ≤ c.toNat ∧ c ≠ '"' ∧ c ≠ '\\'

/-- The letters behind a backslash are visible characters. -/
theorem blank_le_of_unescape? {letter c : Char} (h : unescape? letter = some c) :
    0x20 ≤ letter.toNat := by
  unfold unescape? at h
  split at h
  case h_9 => cases h
  all_goals decide

namespace QuoteStyle.Faithful

variable {style : QuoteStyle} {p : QuotedPart}

theorem readQuoted_escape (h : style.Faithful) (hawaited : p.awaited = none) (c : Char)
    (rest : List Char) : readQuoted p (style.escape c ++ rest) = readQuoted (p.push c) rest := by
  rw [escape]
  split
  · next letter hletter => exact readQuoted_letter (h.letter c letter hletter)
  · next hnone =>
    split
    · next hhexed =>
      have hlow := h.hexed c hhexed
      have hpush : p.pushUnit c.toNat = p.push c := by
        have hhigh : isHighHalf c.toNat = false := by simp [isHighHalf, Nat.not_le.2 hlow]
        have hnotLow : isLowHalf c.toNat = false := by
          have hlow' : c.toNat < 0xDC00 := Nat.lt_trans hlow (by decide)
          simp [isLowHalf, Nat.not_le.2 hlow']
        simp [QuotedPart.pushUnit, hawaited, hhigh, hnotLow]
      rw [List.cons_append, List.cons_append,
        readQuoted_hexQuad (Nat.lt_trans hlow (by decide)), hpush]
    · next hbare =>
      obtain ⟨hblank, hquote, hbackslash⟩ := h.bare c hnone (by simpa using hbare)
      exact readQuoted_bare hblank hquote hbackslash

/-- Reading goes on behind what was read: the characters come out in their order. -/
theorem readQuoted_flatMap (h : style.Faithful) (hpaired : p.paired = true)
    (hawaited : p.awaited = none) (cs rest : List Char) :
    readQuoted p (cs.flatMap style.escape ++ '"' :: rest) =
      some (some (String.ofList (p.reversed.reverse ++ cs)), rest) := by
  induction cs generalizing p with
  | nil =>
    rw [List.flatMap_nil, List.nil_append, readQuoted, QuotedPart.value?, hpaired, hawaited,
      List.append_nil]
    rfl
  | cons c cs ih =>
    have hpushed : (p.push c).paired = true := by simp [QuotedPart.push, hpaired, hawaited]
    rw [List.flatMap_cons, List.append_assoc, h.readQuoted_escape hawaited, ih hpushed rfl]
    simp [QuotedPart.push]

theorem unbroken_escape (h : style.Faithful) (c : Char) : Unbroken (style.escape c) := by
  rw [escape]
  split
  · next letter hletter =>
    simp [blank_le_of_unescape? (h.letter c letter hletter)]
  · next hnone =>
    split
    · simp [unbroken_hexQuad]
    · next hbare => simp [(h.bare c hnone (by simpa using hbare)).1]

/-- There is no line break between quotes. -/
theorem unbroken_quote (h : style.Faithful) (s : String) : Unbroken (style.quote s) := by
  have hescaped : Unbroken (s.toList.flatMap style.escape) := by
    intro c hc
    obtain ⟨d, -, hmem⟩ := List.mem_flatMap.1 hc
    exact h.unbroken_escape d c hmem
  simp [quote, hescaped]

end QuoteStyle.Faithful

namespace QuoteStyle

theorem unescape?_of_commonLetter? {c letter : Char} (h : commonLetter? c = some letter) :
    unescape? letter = some c := by
  unfold commonLetter? at h
  split at h <;> cases h <;> rfl

theorem bare_of_commonLetter? {c : Char} (hnone : commonLetter? c = none) :
    c ≠ '"' ∧ c ≠ '\\' := by
  constructor <;> rintro rfl <;> cases hnone

theorem faithful_document : document.Faithful where
  letter c letter h := by
    simp only [document] at h
    split at h
    · next hc => cases h; rw [hc]; rfl
    · split at h
      · next hc => cases h; rw [hc]; rfl
      · exact unescape?_of_commonLetter? h
  hexed c h := Nat.lt_trans (by simpa [document] using h) (by decide)
  bare c hnone hbare := by
    refine ⟨Nat.not_lt.1 (by simpa [document] using hbare), ?_⟩
    simp only [document] at hnone
    split at hnone
    · cases hnone
    · split at hnone
      · cases hnone
      · exact bare_of_commonLetter? hnone

end QuoteStyle

/-- A quoted string is read back as it was. -/
theorem readQuoted_quote {style : QuoteStyle} (h : style.Faithful) (s : String) (rest : List Char) :
    readQuoted {} (s.toList.flatMap style.escape ++ '"' :: rest) = some (some s, rest) := by
  rw [h.readQuoted_flatMap rfl rfl]
  simp

end ClusterConvergence
