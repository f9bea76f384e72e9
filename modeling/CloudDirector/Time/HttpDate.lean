import CloudDirector.Time.Instant

/-!
# Dates in HTTP headers

A date in a header names the day of the week, the date and the time of day in UTC, as in
`Tue, 03 Jun 2008 11:05:30 GMT`.
-/
namespace CloudDirector.Time

/-- The three letters of a day of the week, 0 being Sunday. -/
def weekdayName (day : Nat) : String :=
  match day with
  | 0 => "Sun" | 1 => "Mon" | 2 => "Tue" | 3 => "Wed" | 4 => "Thu" | 5 => "Fri" | _ => "Sat"

def monthName (month : Nat) : String :=
  match month with
  | 1 => "Jan" | 2 => "Feb" | 3 => "Mar" | 4 => "Apr" | 5 => "May" | 6 => "Jun"
  | 7 => "Jul" | 8 => "Aug" | 9 => "Sep" | 10 => "Oct" | 11 => "Nov" | _ => "Dec"

/-- The instant as the value of a `Date` header. -/
def Instant.httpDate (t : Instant) : String :=
  let d := t.date
  let s := t.secondOfDay
  String.ofList ((weekdayName (Date.weekdayOfDays (Int.fdiv t.seconds secondsPerDay))).toList ++
    [',', ' '] ++ padded 2 d.day ++ ' ' :: (monthName d.month).toList ++
    ' ' :: padded 4 d.year.toNat ++ ' ' :: padded 2 (s / 3600) ++ ':' :: padded 2 (s / 60 % 60) ++
    ':' :: padded 2 (s % 60) ++ [' ', 'G', 'M', 'T'])

end CloudDirector.Time
