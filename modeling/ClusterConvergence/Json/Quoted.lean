import ClusterConvergence.Number.Scaled

/-!
# Quoted strings

Writing a string between quotes, and reading it back.  A character is written as itself, as a
backslash and a letter, or as `\u` and four hexadecimal digits; which one a format chooses is its
`QuoteStyle`.  The reader understands every such form.

Characters beyond the first plane may also be written as two `\u` units, the halves of a pair.  A
half without its partner stands for no character: a string that holds one can be passed over, but it
has no value.
-/

namespace ClusterConvergence

/-! ## Writing -/

/-- How a format writes the characters that it does not write as themselves. -/
structure QuoteStyle where
  /-- The letter that stands for a character behind a backslash, if there is one. -/
  letter? : Char → Option Char
  /-- Whether a character without a letter is written with hexadecimal digits. -/
  hexed : Char → Bool

/-- A hexadecimal digit, in lower case. -/
def hexDigit (n : Nat) : Char :=
  if n < 10 then Char.ofNat ('0'.toNat + n) else Char.ofNat ('a'.toNat + (n - 10))

/-- Four hexadecimal digits. -/
def hexQuad (n : Nat) : List Char :=
  [hexDigit (n / 4096 % 16), hexDigit (n / 256 % 16), hexDigit (n / 16 % 16), hexDigit (n % 16)]

namespace QuoteStyle

/-- The written form of one character. -/
def escape (style : QuoteStyle) (c : Char) : List Char :=
  match style.letter? c with
  | some letter => ['\\', letter]
  | none => if style.hexed c then '\\' :: 'u' :: hexQuad c.toNat else [c]

/-- The written form of a string, with its quotes. -/
def quote (style : QuoteStyle) (s : String) : List Char :=
  '"' :: s.toList.flatMap style.escape ++ ['"']

/-- The letters that every format here agrees on. -/
def commonLetter? : Char → Option Char
  | '"' => some '"'
  | '\\' => some '\\'
  | '\n' => some 'n'
  | '\r' => some 'r'
  | '\t' => some 't'
  | _ => none

/-- Documents escape the quote, the backslash and the characters below the blank. -/
def document : QuoteStyle where
  letter? c :=
    if c = Char.ofNat 8 then some 'b'
    else if c = Char.ofNat 12 then some 'f'
    else commonLetter? c
  hexed c := c.toNat < 0x20

/-- Journal lines also escape the control characters from `U+007F` to `U+009F`. -/
def journal : QuoteStyle where
  letter? := commonLetter?
  hexed c := c.toNat < 0x20 || (0x7F ≤ c.toNat && c.toNat ≤ 0x9F)

end QuoteStyle

/-! ## Reading -/

/-- The value of a hexadecimal digit. -/
def hexDigit? (c : Char) : Option Nat :=
  if '0' ≤ c && c ≤ '9' then some (c.toNat - '0'.toNat)
  else if 'a' ≤ c && c ≤ 'f' then some (c.toNat - 'a'.toNat + 10)
  else if 'A' ≤ c && c ≤ 'F' then some (c.toNat - 'A'.toNat + 10)
  else none

/-- The value of four hexadecimal digits. -/
def hexQuad? (a b c d : Char) : Option Nat := do
  return 4096 * (← hexDigit? a) + 256 * (← hexDigit? b) + 16 * (← hexDigit? c) + (← hexDigit? d)

/-- The character that a letter behind a backslash stands for. -/
def unescape? : Char → Option Char
  | '"' => some '"'
  | '\\' => some '\\'
  | '/' => some '/'
  | 'b' => some (Char.ofNat 8)
  | 'f' => some (Char.ofNat 12)
  | 'n' => some '\n'
  | 'r' => some '\r'
  | 't' => some '\t'
  | _ => none

/-- Whether a unit is the first half of a pair. -/
def isHighHalf (u : Nat) : Bool := 0xD800 ≤ u && u ≤ 0xDBFF

/-- Whether a unit is the second half of a pair. -/
def isLowHalf (u : Nat) : Bool := 0xDC00 ≤ u && u ≤ 0xDFFF

/-- The character of a pair. -/
def ofHalves (high low : Nat) : Char :=
  Char.ofNat (0x10000 + (high - 0xD800) * 0x400 + (low - 0xDC00))

/-- What has been read of a quoted string. -/
structure QuotedPart where
  /-- The characters so far, the last one first. -/
  reversed : List Char := []
  /-- The first half of a pair whose second half has to come next. -/
  awaited : Option Nat := none
  /-- Whether every half so far has its partner. -/
  paired : Bool := true

namespace QuotedPart

/-- One more character. -/
def push (p : QuotedPart) (c : Char) : QuotedPart :=
  { reversed := c :: p.reversed, awaited := none, paired := p.paired && p.awaited.isNone }

/-- One more unit given by hexadecimal digits. -/
def pushUnit (p : QuotedPart) (u : Nat) : QuotedPart :=
  match p.awaited with
  | some high =>
    if isLowHalf u then { p with reversed := ofHalves high u :: p.reversed, awaited := none }
    else { p with awaited := none, paired := false }
  | none =>
    if isHighHalf u then { p with awaited := some u }
    else if isLowHalf u then { p with paired := false }
    else p.push (Char.ofNat u)

/-- The string, at the closing quote. -/
def value? (p : QuotedPart) : Option String :=
  if p.paired && p.awaited.isNone then some (String.ofList p.reversed.reverse) else none

end QuotedPart

/-- Read on behind an opening quote: the string, if every half has its partner, and what follows the
closing quote.  There is no result when the text ends first, when a raw control character comes, or
when a backslash is followed by something that it cannot stand before. -/
def readQuoted (p : QuotedPart) : List Char → Option (Option String × List Char)
  | [] => none
  | '"' :: rest => some (p.value?, rest)
  | '\\' :: 'u' :: a :: b :: c :: d :: rest =>
    match hexQuad? a b c d with
    | some u => readQuoted (p.pushUnit u) rest
    | none => none
  | '\\' :: letter :: rest =>
    match unescape? letter with
    | some c => readQuoted (p.push c) rest
    | none => none
  | c :: rest => if c.toNat < 0x20 || c = '\\' then none else readQuoted (p.push c) rest

end ClusterConvergence
