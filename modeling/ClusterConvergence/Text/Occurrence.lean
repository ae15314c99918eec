/-!
# Occurrences

Whether a text stands somewhere in another one, letter for letter.

Main statement: `occursIn_iff`.
-/

namespace ClusterConvergence

/-- Whether `pattern` stands somewhere in a list of characters. -/
def occursIn (pattern : List Char) : List Char → Bool
  | [] => pattern.isEmpty
  | c :: rest => pattern.isPrefixOf (c :: rest) || occursIn pattern rest

/-- A pattern occurs exactly when the text is the pattern with something before and after it. -/
theorem occursIn_iff {pattern text : List Char} :
    occursIn pattern text = true ↔ pattern <:+: text := by
  induction text with
  | nil => simp [occursIn]
  | cons c rest ih =>
    rw [occursIn, Bool.or_eq_true, List.isPrefixOf_iff_prefix, ih, List.infix_cons_iff]

end ClusterConvergence
