import SchemaGate.Text.Decimal
/-!
Dates and times. A date must be one of the calendar; a time has seconds and may have a fraction of
them; an offset stands only after a date and a time.
-/

set_option autoImplicit false

namespace SchemaGate.Toml

/-- Reads exactly `n` digits off the front of a text. -/
def digits? (n : Nat) (s : List Char) : Option (Nat × List Char) :=
  let front := s.take n
  if front.length == n && front.all Char.isDigit then some (Text.digitsValue 0 front, s.drop n)
  else none

def mark? (c : Char) : List Char → Option (List Char)
  | d :: s => if c = d then some s else none
  | [] => none

def isLeapYear (year : Nat) : Bool := year % 4 == 0 && (year % 100 != 0 || year % 400 == 0)

def daysOfMonth (year month : Nat) : Nat :=
  if month == 2 then (if isLeapYear year then 29 else 28)
  else if month == 4 || month == 6 || month == 9 || month == 11 then 30
  else 31

def date? (s : List Char) : Option (List Char) := do
  let (year, s) ← digits? 4 s
  let (month, s) ← digits? 2 (← mark? '-' s)
  let (day, s) ← digits? 2 (← mark? '-' s)
  if 1 ≤ month && month ≤ 12 && 1 ≤ day && day ≤ daysOfMonth year month then some s else none

def clock? (s : List Char) : Option (List Char) := do
  let (hour, s) ← digits? 2 s
  let (minute, s) ← digits? 2 (← mark? ':' s)
  if hour ≤ 23 && minute ≤ 59 then some s else none

/-- Reads a time off the front of a text; a leap second counts as a second. -/
def time? (s : List Char) : Option (List Char) := do
  let (second, s) ← digits? 2 (← mark? ':' (← clock? s))
  if 60 < second then none
  match s with
  | '.' :: c :: r => if c.isDigit then some (r.dropWhile Char.isDigit) else none
  | s => some s

def isOffset (s : List Char) : Bool :=
  match s with
  | [] => true
  | [c] => c == 'Z' || c == 'z'
  | c :: r => (c == '+' || c == '-') && clock? r == some []

def isTimeOfDate (s : List Char) : Bool :=
  match time? s with
  | some r => isOffset r
  | none => false

/-- Whether a text is a date, a time, or a date and a time with an optional offset. -/
def isDateTime (s : List Char) : Bool :=
  match date? s with
  | some [] => true
  | some (c :: r) => (c == 'T' || c == 't' || c == ' ') && isTimeOfDate r
  | none => time? s == some []

end SchemaGate.Toml
