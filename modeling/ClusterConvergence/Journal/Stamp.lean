import ClusterConvergence.Number.Padded

/-!
# Time stamps and run ids

The time stamp of a journal line, and the id of a run made from random bytes.
-/

namespace ClusterConvergence

/-! ## Time stamps -/

/-- A day of the calendar. -/
structure Day where
  year : Nat
  month : Nat
  day : Nat
  deriving DecidableEq, Repr

/-- The day so many days after the first day of 1970.  Years are counted from March, so that the day
that a leap year adds is the last one; 400 years have 146097 days. -/
def Day.ofCount (count : Nat) : Day :=
  let days := count + 719468
  let ofEra := days % 146097
  let yearOfEra := (ofEra - ofEra / 1460 + ofEra / 36524 - ofEra / 146096) / 365
  let ofYear := ofEra - (365 * yearOfEra + yearOfEra / 4 - yearOfEra / 100)
  let shifted := (5 * ofYear + 2) / 153
  let month := if shifted < 10 then shifted + 3 else shifted - 9
  { year := yearOfEra + days / 146097 * 400 + (if month ≤ 2 then 1 else 0)
    month := month
    day := ofYear - (153 * shifted + 2) / 5 + 1 }

example : Day.ofCount 0 = ⟨1970, 1, 1⟩ := by decide
example : Day.ofCount 11016 = ⟨2000, 2, 29⟩ := by decide
example : Day.ofCount 11017 = ⟨2000, 3, 1⟩ := by decide

/-- The stamp of a moment, given in milliseconds since the beginning of 1970. -/
def stampOf (clock : Nat) : String :=
  let seconds := clock / 1000
  let day := Day.ofCount (seconds / 86400)
  padded 4 day.year ++ "-" ++ padded 2 day.month ++ "-" ++ padded 2 day.day ++ "T" ++
    padded 2 (seconds / 3600 % 24) ++ ":" ++ padded 2 (seconds / 60 % 60) ++ ":" ++
    padded 2 (seconds % 60) ++ "." ++ padded 3 (clock % 1000) ++ "Z"

/-! ## Run ids -/

/-- Two hexadecimal digits. -/
def hexByte (b : UInt8) : String :=
  String.ofList [Nat.digitChar (b.toNat / 16), Nat.digitChar (b.toNat % 16)]

/-- Random bytes with the marks of a random id: a four for its version, two bits for its variant. -/
def markBytes (bytes : List UInt8) : List UInt8 :=
  bytes.mapIdx fun place b =>
    if place = 6 then b % 16 + 64 else if place = 8 then b % 64 + 128 else b

/-- The id of sixteen random bytes: five groups of hexadecimal digits. -/
def runIdOf (bytes : List UInt8) : String :=
  let group (skip size : Nat) := String.join (((markBytes bytes).drop skip).take size |>.map hexByte)
  "-".intercalate [group 0 4, group 4 2, group 6 2, group 8 2, group 10 6]

example : runIdOf (List.replicate 16 255) = "ffffffff-ffff-4fff-bfff-ffffffffffff" := by decide +kernel

end ClusterConvergence
