/-!
Points in time as text: date, time of day and offset, in the Gregorian calendar and in UTC.
-/

namespace SessionGateway.Text.Timestamp

/-- Year, month and day of a number of days since the start of 1970. The calendar is counted in
eras of 400 years from a first of March, so that leap days come last. -/
def civil (days : Int) : Int × Int × Int :=
  let z := days + 719468
  let era := z.fdiv 146097
  let day := z.fmod 146097
  let year := (day - day / 1460 + day / 36524 - day / 146096) / 365
  let dayOfYear := day - (365 * year + year / 4 - year / 100)
  let monthFromMarch := (5 * dayOfYear + 2) / 153
  let dayOfMonth := dayOfYear - (153 * monthFromMarch + 2) / 5 + 1
  let month := if monthFromMarch < 10 then monthFromMarch + 3 else monthFromMarch - 9
  (era * 400 + year + (if month ≤ 2 then 1 else 0), month, dayOfMonth)

def padded (width : Nat) (n : Int) : String :=
  let digits := toString n.natAbs
  String.ofList (List.replicate (width - digits.length) '0') ++ digits

/-- Text of a number of milliseconds since the start of 1970. Years past 9999 or before 0 have a
sign, and whole seconds no fraction. -/
def render (milliseconds : Int) : String :=
  let seconds := milliseconds.fdiv 1000
  let fraction := milliseconds.fmod 1000
  let time := seconds.fmod 86400
  let (year, month, day) := civil (seconds.fdiv 86400)
  let sign := if year < 0 then "-" else if 9999 < year then "+" else ""
  let date := sign ++ padded 4 year ++ "-" ++ padded 2 month ++ "-" ++ padded 2 day
  let clock := padded 2 (time / 3600) ++ ":" ++ padded 2 (time / 60 % 60) ++ ":" ++
    padded 2 (time % 60)
  let fractionText := if fraction = 0 then "" else "." ++ padded 3 fraction
  date ++ "T" ++ clock ++ fractionText ++ "+00:00"

end SessionGateway.Text.Timestamp
