import ImageLaunch.Toml.Scan

/-!
# ImageLaunch.Toml.Quoted

Texts in quotes, in four forms.

| form | delimiter | escapes | line breaks |
|---|---|---|---|
| basic | one double quote | yes | no |
| literal | one single quote | no | no |
| basic over lines | three double quotes | yes | yes |
| literal over lines | three single quotes | no | yes |

Over lines, a break directly after the opening delimiter is dropped, every other
one counts as a line feed, up to two quotes may stand in front of the closing
delimiter, and in the basic form a backslash at the end of a line drops all blanks
and breaks that follow.
-/

namespace ImageLaunch.Toml

open Scan

namespace Quoted

/-- A character that stands for itself in a basic text. -/
def isBasic (c : Char) : Bool := isPlain c && c ≠ '\x22' && c ≠ '\\'

/-- A character that stands for itself in a literal text. -/
def isLiteral (c : Char) : Bool := isPlain c && c ≠ '\x27'

/-- A hexadecimal digit in either case. -/
def isHex (c : Char) : Bool :=
  '0' ≤ c && c ≤ '9' || 'a' ≤ c && c ≤ 'f' || 'A' ≤ c && c ≤ 'F'

/-- The value of a hexadecimal digit. -/
def hexValue (c : Char) : Nat :=
  if c ≤ '9' then c.toNat - '0'.toNat
  else if c ≤ 'F' then c.toNat - 'A'.toNat + 10
  else c.toNat - 'a'.toNat + 10

/-- The character with a number of so many hexadecimal digits. -/
def byNumber (count : Nat) : Scan Char := do
  let digits ← takeExactly isHex count
  let number := digits.foldl (fun number c => number * 16 + hexValue c) 0
  if number.isValidChar then return Char.ofNat number else fail

/-- A backslash and what it stands for. -/
def escape : Scan Char := do
  expect "\\"
  match ← satisfy fun _ => true with
  | 'b' => return '\x08'
  | 't' => return '\t'
  | 'n' => return '\n'
  | 'f' => return '\x0c'
  | 'r' => return '\r'
  | '\x22' => return '\x22'
  | '\\' => return '\\'
  | 'u' => byNumber 4
  | 'U' => byNumber 8
  | _ => fail

/-! ## On one line -/

/-- A basic text on one line. -/
def basic : Scan String := do
  expect "\""
  let parts ← collect do
    if ← accept "\"" then return none
    else if ← sees "\\" then return some [← escape]
    else return some (← takeSome isBasic)
  return String.ofList parts.flatten

/-- A literal text on one line. -/
def literal : Scan String := do
  expect "'"
  let characters ← takeWhile isLiteral
  expect "'"
  return String.ofList characters

/-! ## Over several lines -/

/-- What a text over lines has between its delimiters, the closing one included;
`part` reads whatever is neither a quote nor a line break. -/
def overLines (quote : Char) (part : Scan (List Char)) : Scan String := do
  let delimiter := String.ofList [quote, quote, quote]
  expect delimiter
  discard lineBreak
  let parts ← collect do
    if ← sees delimiter then return none
    else if ← accept (String.singleton quote) then return some [quote]
    else if ← lineBreak then return some ['\n']
    else return some (← part)
  let closing ← takeWhile (· = quote)
  if 5 < closing.length then fail
  else return String.ofList (parts.flatten ++ closing.drop 3)

/-- An escape over lines: a character, or the end of a line with all blanks and
breaks after it. -/
def escapeOverLines : Scan (List Char) := do
  match (← get).rest with
  | _ :: c :: _ =>
    if isBlank c || c = '\n' || c = '\r' then
      expect "\\"
      blanks
      unless ← lineBreak do fail
      blankLines
      return []
    else return [← escape]
  | _ => fail

/-- A basic text over lines. -/
def basicOverLines : Scan String := overLines '\x22' do
  if ← sees "\\" then escapeOverLines else takeSome isBasic

/-- A literal text over lines. -/
def literalOverLines : Scan String := overLines '\x27' (takeSome isLiteral)

/-- A text in any of the four forms. -/
def text : Scan String := do
  if ← sees "\"\"\"" then basicOverLines
  else if ← sees "\"" then basic
  else if ← sees "'''" then literalOverLines
  else literal

end Quoted

end ImageLaunch.Toml
