import ImageLaunch.Text.Quoted

/-!
# ImageLaunch.Numeral

Numbers in writing: decimal, and hexadecimal with the mark `0x`, lower case and
without leading zeros; and the reader for both that the tools' numeric options
use.  Underscores are separators and count for nothing; one leading plus sign is
allowed, after the mark if there is one.

A refused number has one of three reasons.  The digits are scanned from the
left, and the first digit that is no digit or that leaves the 64-bit range
decides.
-/

namespace ImageLaunch.Numeral

/-! ## Writing -/

/-- Decimal digits. -/
def decimal (n : Nat) : String := String.ofList (Nat.toDigits 10 n)

/-- Lower-case hexadecimal digits after `0x`. -/
def hexadecimal (n : Nat) : String := String.ofList ('0' :: 'x' :: Nat.toDigits 16 n)

/-- Decimal digits, after a hyphen if the number is negative. -/
def signed (n : Int) : String := if n < 0 then "-" ++ decimal n.natAbs else decimal n.natAbs

/-! ## Reading -/

/-- Why a text is not a number. -/
inductive Fault
  | empty
  | invalidDigit
  | tooLarge
  deriving DecidableEq, Repr

/-- The reason in words. -/
def Fault.message : Fault → String
  | .empty => "cannot parse integer from empty string"
  | .invalidDigit => "invalid digit found in string"
  | .tooLarge => "number too large to fit in target type"

/-- The value of a digit, letters in either case. -/
def digit? (radix : Nat) (c : Char) : Option Nat :=
  let value :=
    if '0' ≤ c ∧ c ≤ '9' then some (c.toNat - '0'.toNat)
    else if 'a' ≤ c ∧ c ≤ 'z' then some (c.toNat - 'a'.toNat + 10)
    else if 'A' ≤ c ∧ c ≤ 'Z' then some (c.toNat - 'A'.toNat + 10)
    else none
  value.filter (· < radix)

/-- Reads digits onto a number already read, inside the 64-bit range. -/
def scan (radix : Nat) (read : Nat) : List Char → Except Fault Nat
  | [] => .ok read
  | c :: rest =>
    match digit? radix c with
    | none => .error .invalidDigit
    | some value =>
      if read * radix + value < UInt64.size then scan radix (read * radix + value) rest
      else .error .tooLarge

/-- Reads an optional plus sign and at least one digit. -/
def readDigits (radix : Nat) : List Char → Except Fault Nat
  | [] => .error .empty
  | ['+'] => .error .invalidDigit
  | '+' :: digits => scan radix 0 digits
  | digits => scan radix 0 digits

/-- The radix that a mark announces, and the text after the mark. -/
def radixOf : List Char → Nat × List Char
  | '0' :: 'x' :: rest => (16, rest)
  | '0' :: 'X' :: rest => (16, rest)
  | text => (10, text)

/-- Reads a number in either radix, underscores dropped. -/
def read (text : String) : Except Fault UInt64 :=
  let (radix, digits) := radixOf (text.toList.filter (· ≠ '_'))
  (readDigits radix digits).map UInt64.ofNat

/-- The complaint about a text that is not a number. -/
def refusal (text : String) (fault : Fault) : String :=
  "invalid number " ++ Text.Quoted.ofString text ++ ": " ++ fault.message

/-- The number that a text is, or the complaint that it is none. -/
def parse (text : String) : Except String UInt64 := (read text).mapError (refusal text)

end ImageLaunch.Numeral
