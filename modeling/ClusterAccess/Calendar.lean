/-!
# The calendar

Months and days of the calendar that is in use today, carried back to year 1.
-/

namespace ClusterAccess.Calendar

def isLeapYear (y : Nat) : Bool := y % 4 = 0 && (y % 100 != 0 || y % 400 = 0)

def daysInMonth (y m : Nat) : Nat :=
  if m = 2 then if isLeapYear y then 29 else 28
  else if m = 4 || m = 6 || m = 9 || m = 11 then 30
  else 31

/-- Days from the first day of year 1 to a date. -/
def dayNumber (y m d : Nat) : Nat :=
  let past := y - 1
  let inYear := (List.range (m - 1)).foldl (fun days i => days + daysInMonth y (i + 1)) 0
  past * 365 + past / 4 - past / 100 + past / 400 + inYear + (d - 1)

/-- Whether a month has a day. -/
def isDate (y m d : Nat) : Bool := 1 ≤ m && m ≤ 12 && 1 ≤ d && d ≤ daysInMonth y m

end ClusterAccess.Calendar
