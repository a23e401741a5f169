import ImageLaunch.Text.Utf8
import ImageLaunch.Text.Visible

/-!
# ImageLaunch.Text.Quoted

Texts and byte strings between double quotes, as the messages show them.  A
double quote and a backslash take a backslash; NUL, tab, line feed and carriage
return have letters; every other character that is not visible by itself is
written with its number.  Bytes that are no UTF-8 are written with two upper-case
hexadecimal digits each.

The name of a program is quoted in a way of its own: its ASCII characters count as
bytes, and hexadecimal digits are lower-case.
-/

namespace ImageLaunch.Text.Quoted

/-- One character inside the quotes. -/
def escape (c : Char) : List Char :=
  match c with
  | '"' => ['\\', '"']
  | '\\' => ['\\', '\\']
  | '\x00' => ['\\', '0']
  | '\t' => ['\\', 't']
  | '\n' => ['\\', 'n']
  | '\r' => ['\\', 'r']
  | c =>
    if isVisible c then [c]
    else '\\' :: 'u' :: '\x7b' :: Nat.toDigits 16 c.toNat ++ ['\x7d']

/-- A text between double quotes. -/
def ofString (text : String) : String :=
  String.ofList ('"' :: text.toList.flatMap escape ++ ['"'])

/-- One byte by its number, with digits in the given writing. -/
def escapeByte (digit : Nat → Char) (byte : UInt8) : List Char :=
  ['\\', 'x', digit (byte.toNat / 16), digit (byte.toNat % 16)]

/-- A byte string between double quotes, with its characters and its other bytes
escaped in the given ways. -/
def quoteBytes (char : Char → List Char) (byte : UInt8 → List Char) (bytes : Bytes) : String :=
  let inner := (Utf8.pieces bytes).flatMap fun
    | .char c _ => char c
    | .broken bytes => bytes.flatMap byte
  String.ofList ('"' :: inner ++ ['"'])

/-- A byte string between double quotes. -/
def ofBytes (bytes : Bytes) : String :=
  quoteBytes escape (escapeByte fun n => (Nat.digitChar n).toUpper) bytes

/-! ## Names of programs -/

/-- One character of a program's name; single quotes take a backslash too. -/
def escapeInName (c : Char) : List Char :=
  if 0x80 ≤ c.toNat then escape c
  else match c with
    | '"' | '\\' | '\'' => ['\\', c]
    | '\t' => ['\\', 't']
    | '\n' => ['\\', 'n']
    | '\r' => ['\\', 'r']
    | c =>
      if 0x20 ≤ c.toNat ∧ c.toNat < 0x7F then [c]
      else escapeByte Nat.digitChar c.toNat.toUInt8

/-- A program's name between double quotes. -/
def ofName (bytes : Bytes) : String :=
  quoteBytes escapeInName (escapeByte Nat.digitChar) bytes

end ImageLaunch.Text.Quoted
