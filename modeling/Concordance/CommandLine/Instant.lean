import Concordance.Number.Decimal

/-!
# Times as text

A moment is counted in seconds, and nanoseconds within the second, from the beginning of 1970. It
is written as date and time of day in the zone of reference, with as many decimal places as it
needs.
-/

namespace Concordance.Instant

/-- The days from the first of March of year zero to the beginning of 1970. -/
def epochDays : Nat := 719468

/-- Year, month and day of a day counted from the beginning of 1970. The year is taken to begin in
March, so that a leap day is its last, and four hundred years are a whole number of days. -/
def civil (days : Nat) : Nat × Nat × Nat :=
  let days := days + epochDays
  let era := days / 146097
  let dayOfEra := days % 146097
  let yearOfEra := (dayOfEra - dayOfEra / 1460 + dayOfEra / 36524 - dayOfEra / 146096) / 365
  let dayOfYear := dayOfEra - (365 * yearOfEra + yearOfEra / 4 - yearOfEra / 100)
  let month := (5 * dayOfYear + 2) / 153
  let day := dayOfYear - (153 * month + 2) / 5 + 1
  let year := yearOfEra + era * 400
  if month < 10 then (year, month + 3, day) else (year + 1, month - 9, day)

/-- A number with leading zeros. -/
def padded (width n : Nat) : List Char :=
  let digits := Decimal.digits n
  List.replicate (width - digits.length) '0' ++ digits

/-- The decimal places of a second, without zeros at the end. -/
def places (nanoseconds : Nat) : List Char :=
  if nanoseconds = 0 then []
  else '.' :: ((padded 9 nanoseconds).reverse.dropWhile (· = '0')).reverse

/-- A moment as text. -/
def render (seconds nanoseconds : Nat) : String :=
  let (year, month, day) := civil (seconds / 86400)
  let clock := seconds % 86400
  String.ofList (padded 4 year ++ '-' :: padded 2 month ++ '-' :: padded 2 day ++ 'T' ::
    padded 2 (clock / 3600) ++ ':' :: padded 2 (clock / 60 % 60) ++ ':' :: padded 2 (clock % 60) ++
    places nanoseconds ++ ['Z'])

end Concordance.Instant
