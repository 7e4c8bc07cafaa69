/-! Days and times of day, counted from the first of January 1970. -/

namespace Provision.Text

/-- A moment as a calendar and a clock show it. -/
structure Moment where
  year : Int
  /-- From one on. -/
  month : Nat
  day : Nat
  hour : Nat
  minute : Nat
  second : Nat
  /-- Sunday comes first, as nought. -/
  weekday : Nat
  /-- From nought on. -/
  dayOfYear : Nat
  /-- Seconds since the first moment of all. -/
  stamp : Int
  deriving DecidableEq, Repr

namespace Moment

def isLeap (year : Int) : Bool := year % 4 == 0 && (year % 100 != 0 || year % 400 == 0)

/-- How many days lie between the first of January of the year nought and that of another
year. -/
def daysBefore (year : Int) : Int :=
  let last := year - 1
  365 * year + last / 4 - last / 100 + last / 400 + 1

/-- How many days a month has. -/
def daysIn (year : Int) (month : Nat) : Nat :=
  match month with
  | 2 => if isLeap year then 29 else 28
  | 4 | 6 | 9 | 11 => 30
  | _ => 31

private def monthOf (year : Int) : (months month day : Nat) → Nat × Nat
  | 0, month, day => (month, day)
  | months + 1, month, day =>
    if day < daysIn year month then (month, day)
    else monthOf year months (month + 1) (day - daysIn year month)

private def secondsPerDay : Int := 86400

def ofSeconds (stamp : Int) : Moment :=
  let days := stamp / secondsPerDay
  let rest := (stamp % secondsPerDay).toNat
  let count := days + daysBefore 1970
  let guess := count * 400 / 146097
  let year := if count < daysBefore guess then guess - 1
    else if daysBefore (guess + 1) ≤ count then guess + 1 else guess
  let dayOfYear := (count - daysBefore year).toNat
  let (month, day) := monthOf year 11 1 dayOfYear
  { year, month, day := day + 1, hour := rest / 3600, minute := rest / 60 % 60
    second := rest % 60, weekday := ((days + 4) % 7).toNat, dayOfYear, stamp }

private def dayNames : List String :=
  ["Sunday", "Monday", "Tuesday", "Wednesday", "Thursday", "Friday", "Saturday"]

private def monthNames : List String :=
  ["January", "February", "March", "April", "May", "June", "July", "August", "September",
    "October", "November", "December"]

private def padded (width : Nat) (fill : Char) (value : Int) : String :=
  let digits := Nat.toDigits 10 value.natAbs
  let sign := if value < 0 then ['-'] else []
  String.ofList (sign ++ List.replicate (width - digits.length) fill ++ digits)

private def two (value : Int) : String := padded 2 '0' value

private def short (name : String) : String := String.ofList (name.toList.take 3)

private def hourOfHalf (moment : Moment) : Nat :=
  if moment.hour % 12 == 0 then 12 else moment.hour % 12

/-- The number of the week when weeks begin on this day of the week. -/
private def weekFrom (first : Nat) (moment : Moment) : Nat :=
  (moment.dayOfYear + 7 - (moment.weekday + 7 - first) % 7) / 7

private def isoWeeksIn (year : Int) : Nat :=
  let first := ((daysBefore year - daysBefore 1970 + 4) % 7).toNat
  if first == 4 || (first == 3 && isLeap year) then 53 else 52

/-- The year and the number of the week that holds the Thursday next to the day. -/
private def isoWeek (moment : Moment) : Int × Nat :=
  let weekday := if moment.weekday == 0 then 7 else moment.weekday
  let week := (moment.dayOfYear + 11 - weekday) / 7
  if week == 0 then (moment.year - 1, isoWeeksIn (moment.year - 1))
  else if isoWeeksIn moment.year < week then (moment.year + 1, 1)
  else (moment.year, week)

private def dayName (moment : Moment) : String := dayNames[moment.weekday]?.getD ""

private def monthName (moment : Moment) : String := monthNames[moment.month - 1]?.getD ""

private def clock (moment : Moment) : String :=
  two moment.hour ++ ":" ++ two moment.minute ++ ":" ++ two moment.second

private def shortDate (moment : Moment) : String :=
  two moment.month ++ "/" ++ two moment.day ++ "/" ++ two (moment.year % 100)

/-- What a letter of a format shows. -/
private def field? (moment : Moment) (letter : Char) : Option String :=
  match letter with
  | 'a' => some (short (dayName moment))
  | 'A' => some (dayName moment)
  | 'b' | 'h' => some (short (monthName moment))
  | 'B' => some (monthName moment)
  | 'c' =>
    some (short (dayName moment) ++ " " ++ short (monthName moment) ++ " " ++
      padded 2 ' ' moment.day ++ " " ++ clock moment ++ " " ++ padded 1 '0' moment.year)
  | 'C' => some (two (moment.year / 100))
  | 'd' => some (two moment.day)
  | 'D' | 'x' => some (shortDate moment)
  | 'e' => some (padded 2 ' ' moment.day)
  | 'F' => some (padded 1 '0' moment.year ++ "-" ++ two moment.month ++ "-" ++ two moment.day)
  | 'g' => some (two ((isoWeek moment).1 % 100))
  | 'G' => some (padded 1 '0' (isoWeek moment).1)
  | 'H' => some (two moment.hour)
  | 'I' => some (two (hourOfHalf moment))
  | 'j' => some (padded 3 '0' (moment.dayOfYear + 1))
  | 'k' => some (padded 2 ' ' moment.hour)
  | 'l' => some (padded 2 ' ' (hourOfHalf moment))
  | 'm' => some (two moment.month)
  | 'M' => some (two moment.minute)
  | 'n' => some "\n"
  | 'p' => some (if moment.hour < 12 then "AM" else "PM")
  | 'P' => some (if moment.hour < 12 then "am" else "pm")
  | 'r' =>
    some (two (hourOfHalf moment) ++ ":" ++ two moment.minute ++ ":" ++ two moment.second ++
      if moment.hour < 12 then " AM" else " PM")
  | 'R' => some (two moment.hour ++ ":" ++ two moment.minute)
  | 's' => some (padded 1 '0' moment.stamp)
  | 'S' => some (two moment.second)
  | 't' => some "\t"
  | 'T' | 'X' => some (clock moment)
  | 'u' => some (padded 1 '0' (if moment.weekday == 0 then 7 else moment.weekday : Nat))
  | 'U' => some (two (weekFrom 0 moment))
  | 'V' => some (two (isoWeek moment).2)
  | 'w' => some (padded 1 '0' moment.weekday)
  | 'W' => some (two (weekFrom 1 moment))
  | 'y' => some (two (moment.year % 100))
  | 'Y' => some (padded 1 '0' moment.year)
  | 'z' => some "+0000"
  | 'Z' => some "UTC"
  | '%' => some "%"
  | _ => none

private def shownChars (moment : Moment) : List Char → List Char
  | '%' :: letter :: rest =>
    match field? moment letter with
    | some text => text.toList ++ shownChars moment rest
    | none => '%' :: letter :: shownChars moment rest
  | c :: rest => c :: shownChars moment rest
  | [] => []

/-- The moment as a format shows it. -/
def shown (moment : Moment) (format : String) : String :=
  String.ofList (shownChars moment format.toList)

end Moment

end Provision.Text
