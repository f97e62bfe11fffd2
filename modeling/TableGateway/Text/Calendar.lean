-- The days of the calendar and the seconds of a day.

namespace TableGateway.Text

/-- The number of days of a month. -/
def daysOf (year month : Nat) : Nat :=
  if month = 2 then
    if year % 4 = 0 ∧ (year % 100 ≠ 0 ∨ year % 400 = 0) then 29 else 28
  else if month = 4 ∨ month = 6 ∨ month = 9 ∨ month = 11 then 30
  else 31

/-- The numbers name a day. -/
def isDate (year month day : Nat) : Bool :=
  1 ≤ month && month ≤ 12 && 1 ≤ day && day ≤ daysOf year month

/-- The numbers name a second of a day. -/
def isTimeOfDay (hour minute second : Nat) : Bool :=
  hour < 24 && minute < 60 && second < 60

end TableGateway.Text
