import ImageLaunch.Binary64
import ImageLaunch.Toml.Moment
import ImageLaunch.Toml.Quoted

/-!
# ImageLaunch.Toml.Number

Integers and floating-point numbers.  A single underscore may separate two
digits.  A decimal number has no leading zeros and may have a sign; integers with
a radix mark, `0x`, `0o` or `0b`, have no sign.  Integers have to fit 64 bits; a
positive number too large for floating point is refused, a negative one counts as
infinite.
-/

namespace ImageLaunch.Toml

open Scan

/-- A number of either kind. -/
inductive Number
  | integer (value : Int)
  | float (value : Binary64)
  deriving DecidableEq, Repr

namespace Number

/-- Digits of a class, with single underscores between them. -/
def digitRun (belongs : Char → Bool) : Scan (List Char) := do
  let first ← takeSome belongs
  let more ← collect do
    if ← accept "_" then return some (← takeSome belongs) else return none
  return (first :: more).flatten

/-- The value of digits in a radix. -/
def valueOf (radix : Nat) (digits : List Char) : Nat :=
  digits.foldl (fun value c => value * radix + Quoted.hexValue c) 0

/-- An integer that fits 64 bits. -/
def bounded (value : Int) : Scan Number :=
  if Int64.minValue.toInt ≤ value ∧ value ≤ Int64.maxValue.toInt then return .integer value
  else fail

/-- An integer after its radix mark. -/
def inRadix (radix : Nat) (belongs : Char → Bool) : Scan Number := do
  bounded (valueOf radix (← digitRun belongs))

/-- The digits in front of the point: a zero alone, or no zero in front. -/
def wholeDigits : Scan (List Char) := do
  if ← accept "0" then return ['0'] else digitRun Moment.isDigit

/-- A sign, if there is one: true for minus. -/
def sign : Scan (Option Bool) := do
  if ← accept "-" then return some true
  else if ← accept "+" then return some false
  else return none

/-- The digits after the point, if there is one. -/
def fraction : Scan (Option (List Char)) := do
  if ← accept "." then return some (← digitRun Moment.isDigit) else return none

/-- The power of ten, if there is one. -/
def exponent : Scan (Option Int) := do
  if ← acceptAny ["e", "E"] then
    let negative := (← sign).getD false
    let value : Int := valueOf 10 (← digitRun Moment.isDigit)
    return some (if negative then -value else value)
  else return none

/-- A decimal number without its sign. -/
def decimal (negative : Bool) : Scan Number := do
  let whole ← wholeDigits
  match ← fraction, ← exponent with
  | none, none =>
    let value : Int := valueOf 10 whole
    bounded (if negative then -value else value)
  | fraction, exponent =>
    let fraction := fraction.getD []
    let value := Binary64.ofDecimal negative (valueOf 10 (whole ++ fraction))
      (exponent.getD 0 - fraction.length)
    if value = .infinite false then fail else return .float value

/-- A number. -/
def number : Scan Number := do
  let sign ← sign
  if ← accept "inf" then return .float (.infinite (sign.getD false))
  else if ← accept "nan" then return .float .notANumber
  else if sign = none then
    if ← accept "0x" then inRadix 16 Quoted.isHex
    else if ← accept "0o" then inRadix 8 fun c => '0' ≤ c && c ≤ '7'
    else if ← accept "0b" then inRadix 2 fun c => c = '0' || c = '1'
    else decimal false
  else decimal (sign.getD false)

end Number

end ImageLaunch.Toml
