/-!
# Dates

Days counted from the first of January 1970, and times of day.
-/

namespace PidOne.Text

structure Date where
  year : Nat
  month : Nat
  day : Nat
  deriving DecidableEq, Repr

structure Moment where
  date : Date
  hour : Nat := 0
  minute : Nat := 0
  second : Nat := 0
  deriving DecidableEq, Repr

/-- Days from the first of March of the year 0, in a year that begins in March. -/
def Date.ordinal (d : Date) : Nat :=
  let year := if d.month ≤ 2 then d.year - 1 else d.year
  let month := if d.month ≤ 2 then d.month + 9 else d.month - 3
  365 * year + year / 4 - year / 100 + year / 400 + (153 * month + 2) / 5 + (d.day - 1)

def firstDay : Nat := 719468

def Moment.seconds (m : Moment) : Int :=
  (m.date.ordinal - firstDay : Int) * 86400 + (m.hour * 3600 + m.minute * 60 + m.second : Nat)

def dateOf (days : Nat) : Date :=
  let n := days + firstDay
  let era := n / 146097
  let rest := n % 146097
  let years := (rest - rest / 1460 + rest / 36524 - rest / 146096) / 365
  let inYear := rest - (365 * years + years / 4 - years / 100)
  let month := (5 * inYear + 2) / 153
  let day := inYear - (153 * month + 2) / 5 + 1
  let year := 400 * era + years
  if month < 10 then { year, month := month + 3, day } else { year := year + 1, month := month - 9, day }

def momentOf (seconds : Nat) : Moment :=
  let rest := seconds % 86400
  { date := dateOf (seconds / 86400), hour := rest / 3600, minute := rest % 3600 / 60
    second := rest % 60 }

def zeroPadded (width n : Nat) : String :=
  let digits := Nat.toDigits 10 n
  String.ofList (List.replicate (width - digits.length) '0' ++ digits)

def monthNames : List String :=
  ["Jan", "Feb", "Mar", "Apr", "May", "Jun", "Jul", "Aug", "Sep", "Oct", "Nov", "Dec"]

def dayNames : List String := ["Thu", "Fri", "Sat", "Sun", "Mon", "Tue", "Wed"]

def Date.monthName (d : Date) : String := monthNames.getD (d.month - 1) ""

def dayName (seconds : Nat) : String := dayNames.getD (seconds / 86400 % 7) ""

/-- A time in a form that is told by letters behind percent signs; of those that are not known, the
letters stay. -/
def formatTime (micros : Nat) : List Char → List Char
  | '%' :: 'N' :: rest => (zeroPadded 9 (micros % 1000000 * 1000)).toList ++ formatTime micros rest
  | '%' :: '3' :: 'N' :: rest =>
    (zeroPadded 3 (micros % 1000000 / 1000)).toList ++ formatTime micros rest
  | '%' :: '6' :: 'N' :: rest => (zeroPadded 6 (micros % 1000000)).toList ++ formatTime micros rest
  | '%' :: c :: rest => part c ++ formatTime micros rest
  | c :: rest => c :: formatTime micros rest
  | [] => []
where
  part (c : Char) : List Char :=
    let seconds := micros / 1000000
    let m := momentOf seconds
    let day := s!"{m.date.year}-{zeroPadded 2 m.date.month}-{zeroPadded 2 m.date.day}"
    let time := s!"{zeroPadded 2 m.hour}:{zeroPadded 2 m.minute}:{zeroPadded 2 m.second}"
    (match c with
      | '%' => "%"
      | 'n' => "\n"
      | 't' => "\t"
      | 's' => toString seconds
      | 'Y' => toString m.date.year
      | 'm' => zeroPadded 2 m.date.month
      | 'd' => zeroPadded 2 m.date.day
      | 'H' => zeroPadded 2 m.hour
      | 'M' => zeroPadded 2 m.minute
      | 'S' => zeroPadded 2 m.second
      | 'F' => day
      | 'T' => time
      | 'R' => s!"{zeroPadded 2 m.hour}:{zeroPadded 2 m.minute}"
      | 'b' => m.date.monthName
      | 'a' => dayName seconds
      | 'Z' => "UTC"
      | 'z' => "+0000"
      | c => String.ofList ['%', c]).toList

end PidOne.Text
