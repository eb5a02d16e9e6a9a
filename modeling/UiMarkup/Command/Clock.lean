namespace UiMarkup

structure Clock where
  now : String
  elapsed : String

namespace Clock

def padded (width n : Nat) : String :=
  let digits := Nat.repr n
  String.ofList (List.replicate (width - digits.length) '0') ++ digits

/-- The year, month and day that are so many days after the first of January 1970. Years are counted
from March, in spans of four hundred years, so that leap days come last. -/
def date (days : Nat) : Nat × Nat × Nat :=
  let shifted := days + 719468
  let era := shifted / 146097
  let dayOfEra := shifted % 146097
  let yearOfEra := (dayOfEra - dayOfEra / 1460 + dayOfEra / 36524 - dayOfEra / 146096) / 365
  let dayOfYear := dayOfEra - (365 * yearOfEra + yearOfEra / 4 - yearOfEra / 100)
  let march := (5 * dayOfYear + 2) / 153
  let day := dayOfYear - (153 * march + 2) / 5 + 1
  let month := if march < 10 then march + 3 else march - 9
  let year := yearOfEra + era * 400 + if month ≤ 2 then 1 else 0
  (year, month, day)

def timeOf (seconds : Nat) : String :=
  let (year, month, day) := date (seconds / 86400)
  let ofDay := seconds % 86400
  s!"{padded 4 year}-{padded 2 month}-{padded 2 day}T"
    ++ s!"{padded 2 (ofDay / 3600)}:{padded 2 (ofDay / 60 % 60)}:{padded 2 (ofDay % 60)}Z"

def elapsedOf (milliseconds : Nat) : String :=
  let hundredths := (milliseconds + 5) / 10
  s!"{hundredths / 100}.{padded 2 (hundredths % 100)}"

end Clock

end UiMarkup
