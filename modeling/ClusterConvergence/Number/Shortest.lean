/-!
# Shortest decimals

The text of a double-precision number: the fewest digits that read back as the same number, and of
those the ones nearest to it.  A finite double is `m · 2 ^ q` for integers `m` and `q`; the reals that
round to it form an interval around it, whose ends belong to it when `m` is even.  Among the powers
`10 ^ k`, taken from the largest down, the first that has a multiple inside the interval gives the
fewest digits, and the multiple nearest to the number gives the digits.

Everything is exact arithmetic on natural numbers.
-/

namespace ClusterConvergence

/-- A magnitude `digits · 10 ^ exponent`. -/
structure Decimal where
  /-- The digits, read as one number. -/
  digits : Nat
  /-- The power of ten they are multiplied with. -/
  exponent : Int
  deriving DecidableEq, Repr

namespace Shortest

/-- A non-negative rational number `num / den`. -/
structure Ratio where
  num : Nat
  den : Nat

/-- The ratio `x · 2 ^ e`. -/
def Ratio.ofDyadic (x : Nat) (e : Int) : Ratio :=
  if 0 ≤ e then ⟨x <<< e.toNat, 1⟩ else ⟨x, 1 <<< (-e).toNat⟩

/-- The number measured in units of `10 ^ k`. -/
def Ratio.inUnits (r : Ratio) (k : Int) : Ratio :=
  if 0 ≤ k then ⟨r.num, r.den * Nat.pow 10 k.toNat⟩ else ⟨r.num * Nat.pow 10 (-k).toNat, r.den⟩

/-- The interval of the reals that round to one double, and that double. -/
structure Rounding where
  low : Ratio
  value : Ratio
  high : Ratio
  /-- Whether the ends of the interval round to the double too. -/
  closed : Bool

/-- Whether `d` units of `10 ^ k` lie in the interval. -/
def Rounding.holds (i : Rounding) (k : Int) (d : Nat) : Bool :=
  let low := i.low.inUnits k
  let high := i.high.inUnits k
  0 < d &&
    if i.closed then low.num ≤ d * low.den && d * high.den ≤ high.num
    else low.num < d * low.den && d * high.den < high.num

/-- The multiple of `10 ^ k` inside the interval that is nearest to the double; of two that are
equally near, the even one. -/
def Rounding.nearest? (i : Rounding) (k : Int) : Option Nat :=
  let v := i.value.inUnits k
  let below := v.num / v.den
  let rest := v.num % v.den
  let nearer :=
    if 2 * rest < v.den then below
    else if 2 * rest = v.den && below % 2 = 0 then below
    else below + 1
  let other := if nearer = below then below + 1 else below
  if i.holds k nearer then some nearer
  else if i.holds k other then some other
  else none

/-- The first power of ten, from `10 ^ k` down, that has a multiple in the interval. -/
def Rounding.search (i : Rounding) : Nat → Int → Option Decimal
  | 0, _ => none
  | steps + 1, k =>
    match i.nearest? k with
    | some d => some ⟨d, k⟩
    | none => i.search steps (k - 1)

/-- The interval of `m · 2 ^ q`.  Below a power of two the doubles lie twice as close. -/
def Rounding.ofDyadic (m : Nat) (q : Int) (atPower : Bool) : Rounding where
  low := .ofDyadic (if atPower then 4 * m - 1 else 4 * m - 2) (q - 2)
  value := .ofDyadic (4 * m) (q - 2)
  high := .ofDyadic (4 * m + 2) (q - 2)
  closed := m % 2 = 0

end Shortest

/-- The shortest decimal of the magnitude of a finite double other than zero. -/
def shortestDecimal? (x : Float) : Option Decimal :=
  let bits := x.toBits.toNat
  let fraction : Nat := bits % (1 <<< 52)
  let field : Nat := (bits >>> 52) % (1 <<< 11)
  let rounding :=
    if field = 0 then Shortest.Rounding.ofDyadic fraction (-1074) false
    else .ofDyadic ((1 <<< 52) + fraction) ((field : Int) - 1075) (fraction = 0 && 1 < field)
  if fraction = 0 && field = 0 then none else rounding.search 640 309

/-- The decimal digits of a natural number. -/
def digitsOf (n : Nat) : List Char :=
  Nat.toDigits 10 n

/-- A double as text, always with a fractional part or an exponent: digits with a point among or
around them while the point stays near them, otherwise one digit, the rest behind a point, and the
power of ten with its sign. -/
def floatText (x : Float) : List Char :=
  let sign := if (x.toBits.toNat >>> 63) % 2 = 1 then ['-'] else []
  match shortestDecimal? x with
  | none => sign ++ ['0', '.', '0']
  | some decimal =>
    let digits := digitsOf decimal.digits
    -- how many digits stand before the point
    let point : Int := (digits.length : Int) + decimal.exponent
    sign ++
      if 0 ≤ decimal.exponent && point ≤ 16 then
        digits ++ List.replicate decimal.exponent.toNat '0' ++ ['.', '0']
      else if 0 < point && point ≤ 16 then
        digits.take point.toNat ++ '.' :: digits.drop point.toNat
      else if -5 < point && point ≤ 0 then
        ['0', '.'] ++ List.replicate (-point).toNat '0' ++ digits
      else
        let power := 'e' :: (if point ≤ 0 then '-' else '+') :: digitsOf (point - 1).natAbs
        match digits with
        | [digit] => digit :: power
        | first :: rest => first :: '.' :: rest ++ power
        | [] => power

end ClusterConvergence
