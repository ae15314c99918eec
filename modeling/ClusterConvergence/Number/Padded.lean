/-!
# Numbers of a least width
-/

namespace ClusterConvergence

/-- A number in decimal digits, with zeros in front of it up to the given width. -/
def padded (width n : Nat) : String :=
  let digits := toString n
  String.ofList (List.replicate (width - digits.length) '0') ++ digits

example : padded 4 7 = "0007" := by decide +kernel
example : padded 4 12345 = "12345" := by decide +kernel

end ClusterConvergence
