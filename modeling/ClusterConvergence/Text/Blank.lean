/-!
# Blank characters

Names read from a configuration file or from an inventory count as absent when they hold nothing but
blanks, and an explicit replica-set name is used without the blanks around it.  A character is blank
when it has the Unicode property `White_Space`; the table below is that property.

Main statements: `trim_eq_empty_iff` says that a text trims to nothing exactly when it is blank
throughout, and `isBlank_of_isWhitespace` that the four characters of `Char.isWhitespace` are blank.
-/

namespace ClusterConvergence

/-- Whether a character has the Unicode property `White_Space`. -/
def isBlank (c : Char) : Bool :=
  let n := c.toNat
  (0x9 ≤ n && n ≤ 0xD) || n == 0x20 || n == 0x85 || n == 0xA0 || n == 0x1680 ||
    (0x2000 ≤ n && n ≤ 0x200A) || n == 0x2028 || n == 0x2029 || n == 0x202F || n == 0x205F ||
    n == 0x3000

/-- Whether a text holds nothing but blanks; the empty text does. -/
def isBlankText (s : String) : Bool :=
  s.toList.all isBlank

/-- A list without the blanks at its front and at its end. -/
def trimChars (cs : List Char) : List Char :=
  ((cs.dropWhile isBlank).reverse.dropWhile isBlank).reverse

/-- A text without the blanks at its front and at its end. -/
def trim (s : String) : String :=
  String.ofList (trimChars s.toList)

/-- Every whitespace character of the ASCII range is blank. -/
theorem isBlank_of_isWhitespace {c : Char} (h : c.isWhitespace = true) : isBlank c = true := by
  simp only [Char.isWhitespace, Bool.or_eq_true, decide_eq_true_eq] at h
  rcases h with ((rfl | rfl) | rfl) | rfl <;> decide

theorem dropWhile_isBlank_eq_nil_iff {cs : List Char} :
    cs.dropWhile isBlank = [] ↔ cs.all isBlank = true := by
  induction cs with
  | nil => simp
  | cons c rest ih =>
    rw [List.dropWhile_cons]
    split
    · next h => simp [ih, h]
    · next h => simp [h]

theorem trimChars_eq_nil_iff {cs : List Char} : trimChars cs = [] ↔ cs.all isBlank = true := by
  rw [trimChars, List.reverse_eq_nil_iff, dropWhile_isBlank_eq_nil_iff, List.all_reverse]
  constructor
  · intro h
    rw [← dropWhile_isBlank_eq_nil_iff]
    cases hcs : cs.dropWhile isBlank with
    | nil => rfl
    | cons c rest =>
      have hhead := List.head?_dropWhile_not isBlank cs
      rw [hcs] at h hhead
      have hc : isBlank c = true := List.all_eq_true.1 h c (by simp)
      simp [hc] at hhead
  · intro h
    simp [dropWhile_isBlank_eq_nil_iff.2 h]

/-- A text trims to nothing exactly when it is blank throughout. -/
theorem trim_eq_empty_iff {s : String} : trim s = "" ↔ isBlankText s = true := by
  rw [isBlankText, ← trimChars_eq_nil_iff, trim]
  constructor
  · intro h
    have := congrArg String.toList h
    simpa [String.toList_ofList] using this
  · intro h
    simp [h]

end ClusterConvergence
