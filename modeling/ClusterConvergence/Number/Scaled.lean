/-!
# Reading decimals as doubles

A number with a point or an exponent becomes a double in two steps: as many leading digits as fit
64 bits are read as one integer, and that integer is multiplied with, or divided by, the power of ten
that the point, the exponent and the digits left out amount to.  A magnitude beyond the largest double
has no value; one below the smallest becomes zero.
-/

namespace ClusterConvergence

/-- The value of a digit character. -/
def digitValue (c : Char) : Nat :=
  c.toNat - '0'.toNat

/-- The natural number that a list of digits spells. -/
def ofDigits (digits : List Char) : Nat :=
  digits.foldl (fun n c => 10 * n + digitValue c) 0

namespace Scaled

/-- Append digits to `significand` while the result fits 64 bits: the significand, and how many
digits were appended. -/
def extend (significand appended : Nat) : List Char → Nat × Nat
  | [] => (significand, appended)
  | c :: rest =>
    let next := significand * 10 + digitValue c
    if next < UInt64.size then extend next (appended + 1) rest else (significand, appended)

/-- The double nearest to `10 ^ n`. -/
def powerOfTen (n : Nat) : Float :=
  Float.ofScientific 1 false n

/-- Divide `x` by `10 ^ n`, by at most `10 ^ 308` at a time. -/
def shrink (x : Float) (n : Nat) : Float :=
  if n ≤ 308 then x / powerOfTen n
  else if x == 0.0 then x
  else shrink (x / powerOfTen 308) (n - 308)
termination_by n

/-- The double for `significand · 10 ^ exponent`, when there is one that large. -/
def value? (significand : Nat) (exponent : Int) : Option Float :=
  let x := significand.toUInt64.toFloat
  if exponent < 0 then some (shrink x (-exponent).toNat)
  else if 308 < exponent then (if x == 0.0 then some x else none)
  else
    let scaled := x * powerOfTen exponent.toNat
    if scaled.isInf then none else some scaled

/-- The magnitude with the digits `whole` before the point, `fraction` behind it, and the power of
ten `exponent`. -/
def ofParts? (whole fraction : List Char) (exponent : Int) : Option Float :=
  let (significand, read) := extend 0 0 whole
  let (significand, behind) := extend significand 0 fraction
  value? significand ((whole.length - read : Nat) - (behind : Int) + exponent)

end Scaled

end ClusterConvergence
