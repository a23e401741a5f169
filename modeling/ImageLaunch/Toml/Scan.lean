/-!
# ImageLaunch.Toml.Scan

Reading a text from left to right.  A reader takes characters off the front and
counts their bytes; it either answers or fails at the place where it stands.  No
reader goes back: what comes next is decided by looking ahead.
-/

namespace ImageLaunch.Toml

/-- A stretch of a text, in bytes from its start. -/
structure Span where
  start : Nat
  stop : Nat
  deriving DecidableEq, Repr

/-- What is left of a text, and how many bytes come before it. -/
structure Cursor where
  rest : List Char
  offset : Nat := 0
  deriving DecidableEq, Repr

/-- A reader; it fails with the offset at which it cannot go on. -/
abbrev Scan := StateT Cursor (Except Nat)

/-- The cursor after so many characters. -/
def Cursor.advance (cursor : Cursor) (count : Nat) : Cursor where
  rest := cursor.rest.drop count
  offset := (cursor.rest.take count).foldl (fun offset c => offset + c.utf8Size) cursor.offset

namespace Scan

variable {α : Type}

/-- Fails here. -/
def fail : Scan α := fun cursor => .error cursor.offset

/-- The next character, left in place. -/
def peek : Scan (Option Char) := fun cursor => .ok (cursor.rest.head?, cursor)

/-- The text comes next. -/
def sees (text : String) : Scan Bool := fun cursor =>
  .ok (text.toList.isPrefixOf cursor.rest, cursor)

/-- Takes the text if it comes next, and tells whether it did. -/
def accept (text : String) : Scan Bool := fun cursor =>
  if text.toList.isPrefixOf cursor.rest then .ok (true, cursor.advance text.length)
  else .ok (false, cursor)

/-- Takes the first of some texts that comes next, and tells whether one did. -/
def acceptAny : List String → Scan Bool
  | [] => return false
  | text :: others => do
    if ← accept text then return true else acceptAny others

/-- Takes the text, which has to come next. -/
def expect (text : String) : Scan Unit := do
  unless ← accept text do fail

/-- Takes one character of a class. -/
def satisfy (belongs : Char → Bool) : Scan Char := fun cursor =>
  match cursor.rest with
  | c :: _ => if belongs c then .ok (c, cursor.advance 1) else .error cursor.offset
  | [] => .error cursor.offset

/-- Takes characters as long as they belong to a class. -/
def takeWhile (belongs : Char → Bool) : Scan (List Char) := fun cursor =>
  let taken := cursor.rest.takeWhile belongs
  .ok (taken, cursor.advance taken.length)

/-- Takes at least one character of a class, and all that follow. -/
def takeSome (belongs : Char → Bool) : Scan (List Char) := do
  match ← takeWhile belongs with
  | [] => fail
  | taken => return taken

/-- Takes exactly so many characters of a class. -/
def takeExactly (belongs : Char → Bool) : Nat → Scan (List Char)
  | 0 => return []
  | count + 1 => do return (← satisfy belongs) :: (← takeExactly belongs count)

/-- Repeats a step until it answers nothing, in at most so many rounds. -/
def collectWithin (step : Scan (Option α)) : Nat → Scan (List α)
  | 0 => fail
  | rounds + 1 => do
    match ← step with
    | none => return []
    | some found => return found :: (← collectWithin step rounds)

/-- Repeats a step until it answers nothing.  A step that answers has taken
something, so one round for each character and one for the end suffice. -/
def collect (step : Scan (Option α)) : Scan (List α) := fun cursor =>
  collectWithin step (cursor.rest.length + 1) cursor

/-- An answer with the stretch that was read for it. -/
def spanned (scan : Scan α) : Scan (α × Span) := fun cursor => do
  let (found, after) ← scan cursor
  .ok ((found, ⟨cursor.offset, after.offset⟩), after)

/-! ## Blanks -/

/-- Space and tab. -/
def isBlank (c : Char) : Bool := c = ' ' || c = '\t'

/-- Skips spaces and tabs. -/
def blanks : Scan Unit := discard (takeWhile isBlank)

/-- Takes a line break, a line feed with or without a carriage return before it,
and tells whether there was one. -/
def lineBreak : Scan Bool := acceptAny ["\n", "\r\n"]

/-- A character that may stand in a comment, and in a text if nothing else is
said: no control character but the tab. -/
def isPlain (c : Char) : Bool := c = '\t' || ' ' ≤ c && c ≠ '\x7f'

/-- Skips a comment, and tells whether there was one. -/
def comment : Scan Bool := do
  if ← accept "#" then
    discard (takeWhile isPlain)
    return true
  else return false

/-- Skips blanks and line breaks. -/
def blankLines : Scan Unit := discard <| collect do
  if ← lineBreak then return some ()
  else match ← takeWhile isBlank with
    | [] => return none
    | _ => return some ()

/-- Skips blanks, line breaks and comments. -/
def gaps : Scan Unit := discard <| collect do
  blankLines
  if ← comment then return some () else return none

/-- Nothing but blanks and a comment is left of the line, whose break is taken if
it has one. -/
def lineEnd : Scan Unit := do
  blanks
  discard comment
  unless ← lineBreak do
    if (← peek).isSome then fail

end Scan

end ImageLaunch.Toml
