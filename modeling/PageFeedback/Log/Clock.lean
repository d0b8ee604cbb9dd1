set_option autoImplicit false

namespace PageFeedback

def paddedDigits (width value : Nat) : List Char :=
  let written := Nat.toDigits 10 value
  List.replicate (width - written.length) '0' ++ written

-- Year, month and day of a count of days since the start of 1970. Years are
-- counted from March, so that a leap day is the last day of its year.
def dateOfDay (day : Nat) : Nat × Nat × Nat :=
  let shifted := day + 719468
  let era := shifted / 146097
  let dayOfEra := shifted % 146097
  let yearOfEra := (dayOfEra - dayOfEra / 1460 + dayOfEra / 36524 - dayOfEra / 146096) / 365
  let dayOfYear := dayOfEra - (365 * yearOfEra + yearOfEra / 4 - yearOfEra / 100)
  let monthFromMarch := (5 * dayOfYear + 2) / 153
  let dayOfMonth := dayOfYear - (153 * monthFromMarch + 2) / 5 + 1
  let month := if monthFromMarch < 10 then monthFromMarch + 3 else monthFromMarch - 9
  let year := yearOfEra + era * 400 + (if month ≤ 2 then 1 else 0)
  (year, month, dayOfMonth)

def timestampText (microseconds : Nat) : String :=
  let seconds := microseconds / 1000000
  let (year, month, day) := dateOfDay (seconds / 86400)
  String.ofList (paddedDigits 4 year ++ '-' :: paddedDigits 2 month ++ '-' :: paddedDigits 2 day ++
    'T' :: paddedDigits 2 (seconds / 3600 % 24) ++ ':' :: paddedDigits 2 (seconds / 60 % 60) ++
    ':' :: paddedDigits 2 (seconds % 60) ++ '.' :: paddedDigits 6 (microseconds % 1000000) ++ ['Z'])

end PageFeedback
