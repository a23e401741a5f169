import ImageLaunch.Toml.Scan

/-!
# ImageLaunch.Toml.Moment

Dates and times of day.  They are checked and then forgotten: nothing here has a
use for one.

A date is `YYYY-MM-DD`, with a day that its month has; a time of day is
`HH:MM:SS`, possibly with a fraction, where a leap second may be the sixtieth.
After a date, `T` or a space joins a time, which may then have an offset: `Z`, or
a sign and `HH:MM`.
-/

namespace ImageLaunch.Toml

open Scan

namespace Moment

/-- A decimal digit. -/
def isDigit (c : Char) : Bool := '0' ≤ c && c ≤ '9'

/-- A number of exactly so many digits, within bounds. -/
def field (count low high : Nat) : Scan Nat := do
  let digits ← takeExactly isDigit count
  let value := digits.foldl (fun value c => value * 10 + (c.toNat - '0'.toNat)) 0
  if low ≤ value ∧ value ≤ high then return value else fail

/-- The days of a month. -/
def daysIn (year month : Nat) : Nat :=
  if month = 2 then
    if year % 4 = 0 ∧ (year % 100 ≠ 0 ∨ year % 400 = 0) then 29 else 28
  else if month = 4 ∨ month = 6 ∨ month = 9 ∨ month = 11 then 30
  else 31

/-- A date. -/
def date : Scan Unit := do
  let year ← field 4 0 9999
  expect "-"
  let month ← field 2 1 12
  expect "-"
  discard (field 2 1 (daysIn year month))

/-- A time of day. -/
def timeOfDay : Scan Unit := do
  discard (field 2 0 23)
  expect ":"
  discard (field 2 0 59)
  expect ":"
  discard (field 2 0 60)
  if ← accept "." then discard (takeSome isDigit)

/-- An offset from universal time, if there is one. -/
def offset : Scan Unit := do
  if ← acceptAny ["Z", "z"] then return ()
  else if ← acceptAny ["+", "-"] then
    discard (field 2 0 23)
    expect ":"
    discard (field 2 0 59)

/-- So many digits and the mark come next. -/
def comesNext (text : List Char) (count : Nat) (mark : Char) : Bool :=
  (text.take count).length = count && (text.take count).all isDigit &&
    (text.drop count).head? = some mark

/-- A date comes next. -/
def dateNext (text : List Char) : Bool := comesNext text 4 '-'

/-- A time of day comes next. -/
def timeNext (text : List Char) : Bool := comesNext text 2 ':'

/-- A date or a time comes next. -/
def isNext : Scan Bool := do
  let rest := (← get).rest
  return dateNext rest || timeNext rest

/-- A date, a time, or a date with a time. -/
def moment : Scan Unit := do
  if timeNext (← get).rest then timeOfDay
  else
    date
    match (← get).rest with
    | joint :: rest =>
      if (joint = 'T' || joint = 't' || joint = ' ') && timeNext rest then
        discard (satisfy fun _ => true)
        timeOfDay
        offset
    | [] => return ()

end Moment

end ImageLaunch.Toml
