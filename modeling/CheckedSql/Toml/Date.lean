import CheckedSql.Toml.Number

namespace CheckedSql.Toml

def twoDigits (least greatest : Nat) : Rule Nat := do
  let value := numberOf 10 (← Rule.times Char.isDigit 2)
  Rule.when (least ≤ value && value ≤ greatest)
  return value

def isLeapYear (year : Nat) : Bool :=
  year % 4 == 0 && (year % 100 != 0 || year % 400 == 0)

def daysOfMonth (year month : Nat) : Nat :=
  if month = 2 then if isLeapYear year then 29 else 28
  else if month = 4 ∨ month = 6 ∨ month = 9 ∨ month = 11 then 30
  else 31

def date : Rule Unit := do
  let year := numberOf 10 (← Rule.times Char.isDigit 4)
  Rule.word ['-']
  let month ← twoDigits 1 12
  Rule.word ['-']
  let _ ← twoDigits 1 (daysOfMonth year month)

/-- A time of day. A minute may have a leap second. -/
def timeOfDay : Rule Unit := do
  let _ ← twoDigits 0 23
  Rule.word [':']
  let _ ← twoDigits 0 59
  Rule.word [':']
  let _ ← twoDigits 0 60
  let _ ← Rule.optional do
    Rule.word ['.']
    let _ ← Rule.char Char.isDigit
    let _ ← Rule.run Char.isDigit

def timeOffset : Rule Unit :=
  (do let _ ← Rule.char fun char => char == 'Z' || char == 'z') <|>
  (do
    let _ ← Rule.char fun char => char == '+' || char == '-'
    let _ ← twoDigits 0 23
    Rule.word [':']
    let _ ← twoDigits 0 59)

def dateTime : Rule Unit :=
  (do
    date
    let _ ← Rule.optional do
      let _ ← Rule.char fun char => char == 'T' || char == 't' || char == ' '
      timeOfDay
      let _ ← Rule.optional timeOffset) <|>
  timeOfDay

end CheckedSql.Toml
