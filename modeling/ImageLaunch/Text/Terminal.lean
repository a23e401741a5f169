/-!
# ImageLaunch.Text.Terminal

What is left of a text when everything that steers a terminal is taken out of it:
control characters other than white space, and control sequences, from the escape
character that opens them to the character that ends them.

| opened by | ended by |
|---|---|
| `ESC` and intermediates (space to `/`) | `0` to `~` |
| `ESC [` | `@` to `~` |
| `ESC ]` | `BEL` |
| `ESC P` with its parameters, `ESC X`, `ESC ^`, `ESC _` | a byte 9C |

A cancelling character ends every one of them, another escape character opens the
next, and white space ends those of the first two rows and stays.
-/

namespace ImageLaunch.Text.Terminal

/-- What a terminal is in the middle of. -/
inductive Mode
  /-- Showing what comes. -/
  | ground
  /-- Just after an escape character. -/
  | escape
  /-- After an escape character and intermediates. -/
  | intermediate
  /-- In a control sequence. -/
  | sequence
  /-- At the start of a device control. -/
  | device
  /-- In the parameters of a device control. -/
  | deviceParameters
  /-- In the intermediates of a device control. -/
  | deviceIntermediate
  /-- In a string that a byte 9C ends. -/
  | controlString
  /-- In a string that a bell ends. -/
  | systemCommand
  deriving DecidableEq, Repr

/-- Between two characters, both included. -/
def between (low high c : Char) : Bool := low.toNat ≤ c.toNat && c.toNat ≤ high.toNat

/-- White space that is a control character: tab, line feed, form feed, carriage
return. -/
def isLayout (c : Char) : Bool := c = '\t' || c = '\n' || c = '\x0c' || c = '\r'

/-- A character that a terminal shows: no control character but white space. -/
def isShown (c : Char) : Bool := isLayout c || (0x20 ≤ c.toNat && c.toNat ≠ 0x7F)

/-- Bytes 9C end a string wherever they stand. -/
def endsString (c : Char) : Bool := (String.utf8EncodeChar c).contains 0x9C

/-- What an escape character opens with the character after it. -/
def opened (c : Char) : Mode :=
  if c = '[' then .sequence
  else if c = ']' then .systemCommand
  else if c = 'P' then .device
  else if c = 'X' ∨ c = '^' ∨ c = '_' then .controlString
  else if between ' ' '/' c then .intermediate
  else if between '0' '~' c then .ground
  else .escape

/-- Where a device control goes on from one of its three stages; `marks` and
`digits` are where the characters `<` to `?` and `0` to `;` lead. -/
def inDevice (stage marks digits : Mode) (c : Char) : Mode :=
  if between ' ' '/' c then .deviceIntermediate
  else if between '<' '?' c then marks
  else if between '0' ';' c then digits
  else if between '@' '~' c then .controlString
  else stage

/-- Where the terminal goes on inside a sequence, at a character that neither
cancels nor escapes nor is white space with a meaning there. -/
def goOn (mode : Mode) (c : Char) : Mode :=
  match mode with
  | .ground => .ground
  | .escape => opened c
  | .intermediate => if between '0' '~' c then .ground else .intermediate
  | .sequence => if between '@' '~' c then .ground else .sequence
  | .device => inDevice .device .deviceParameters .deviceParameters c
  | .deviceParameters => inDevice .deviceParameters .controlString .deviceParameters c
  | .deviceIntermediate => inDevice .deviceIntermediate .controlString .controlString c
  | .controlString => if endsString c then .ground else .controlString
  | .systemCommand => if c = '\x07' then .ground else .systemCommand

/-- White space inside is followed, and ends what it stands in. -/
def followsLayout : Mode → Bool
  | .ground | .escape | .intermediate | .sequence => true
  | _ => false

/-- What one character does: the mode after it, and whether it is shown. -/
def feed (mode : Mode) (c : Char) : Mode × Bool :=
  if c = '\x1b' then (.escape, false)
  else if c = '\x18' ∨ c = '\x1a' then (.ground, false)
  else if isLayout c && followsLayout mode then (.ground, true)
  else (goOn mode c, mode = .ground && isShown c)

/-- What is shown of some characters. -/
def shownFrom (mode : Mode) : List Char → List Char
  | [] => []
  | c :: rest =>
    match feed mode c with
    | (mode, true) => c :: shownFrom mode rest
    | (mode, false) => shownFrom mode rest

/-- A text without what steers a terminal. -/
def plain (text : String) : String := String.ofList (shownFrom .ground text.toList)

end ImageLaunch.Text.Terminal
