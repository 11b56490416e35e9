import BucketReplication.Text.Alphanumeric
import BucketReplication.Toml.Line

/-! # TOML dates and times

Only the form of a date or time matters here: it says how far the text reaches
and whether it is well formed. -/

namespace BucketReplication.Toml.Moment

def number (count : Nat) : Scan Nat := fun text =>
  let digits := text.take count
  if digits.length = count ∧ digits.all Char.isDigit then
    some (Text.valueOfDigits 10 digits, text.drop count)
  else none

def pair (low high : Nat) : Scan Nat := fun text => do
  let (value, rest) ← number 2 text
  if low ≤ value ∧ value ≤ high then return (value, rest) else none

def expect (c : Char) (text : List Char) : Option (List Char) :=
  match text with
  | first :: rest => if first = c then some rest else none
  | [] => none

def isLeapYear (year : Nat) : Bool :=
  year % 4 = 0 && (year % 100 ≠ 0 || year % 400 = 0)

def daysInMonth (year month : Nat) : Nat :=
  if month = 2 then if isLeapYear year then 29 else 28
  else if month = 4 ∨ month = 6 ∨ month = 9 ∨ month = 11 then 30
  else 31

def date (text : List Char) : Option (List Char) := do
  let (year, afterYear) ← number 4 text
  let beforeMonth ← expect '-' afterYear
  let (month, afterMonth) ← pair 1 12 beforeMonth
  let beforeDay ← expect '-' afterMonth
  let (_, rest) ← pair 1 (daysInMonth year month) beforeDay
  return rest

def secondFraction (text : List Char) : List Char :=
  match text with
  | '.' :: rest =>
    match rest with
    | c :: _ => if c.isDigit then rest.dropWhile Char.isDigit else text
    | [] => text
  | _ => text

/-- What follows a time. A minute may have a leap second. -/
def time (text : List Char) : Option (List Char) := do
  let (_, afterHour) ← pair 0 23 text
  let beforeMinute ← expect ':' afterHour
  let (_, afterMinute) ← pair 0 59 beforeMinute
  let beforeSecond ← expect ':' afterMinute
  let (_, rest) ← pair 0 60 beforeSecond
  return secondFraction rest

def offset (text : List Char) : Option (List Char) :=
  match text with
  | 'Z' :: rest => some rest
  | 'z' :: rest => some rest
  | c :: rest =>
    if c = '+' ∨ c = '-' then do
      let (_, afterHour) ← pair 0 23 rest
      let beforeMinute ← expect ':' afterHour
      let (_, following) ← pair 0 59 beforeMinute
      return following
    else some text
  | [] => some []

def timeBehindDate (text : List Char) : Option (List Char) := do
  match text with
  | c :: rest =>
    if c = 'T' ∨ c = 't' ∨ c = ' ' then
      let following ← time rest
      offset following
    else none
  | [] => none

def scan (text : List Char) : Option (List Char) :=
  match date text with
  | some rest => some ((timeBehindDate rest).getD rest)
  | none => time text

end BucketReplication.Toml.Moment
