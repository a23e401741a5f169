import ImageLaunch.Text.Terminal

/-!
# ImageLaunch.Text.Styled

Text in pieces, each of one style.  In colours a style is a control sequence in front of
its piece and a reset behind it, and the pieces stay as they are.  Otherwise styles are
not shown, and the pieces lose whatever else steers a terminal.
-/

namespace ImageLaunch.Text

/-- What a piece of text is, as far as it is set off from the text around it. -/
inductive Style
  | bare
  /-- The title of what follows. -/
  | heading
  /-- Something to be typed as it stands. -/
  | literal
  /-- The mark of a failure. -/
  | failure
  /-- Something that would be accepted. -/
  | accepted
  /-- Something that was refused. -/
  | refused
  deriving DecidableEq, Repr

/-- What turns a style on: headings are bold and underlined, literal text is bold, failures
are bold and red, and what is accepted or refused is green or yellow. -/
def Style.opening : Style → String
  | .bare => ""
  | .heading => "\x1b[1m\x1b[4m"
  | .literal => "\x1b[1m"
  | .failure => "\x1b[1m\x1b[31m"
  | .accepted => "\x1b[32m"
  | .refused => "\x1b[33m"

/-- What turns a style off. -/
def Style.closing : Style → String
  | .bare => ""
  | _ => "\x1b[0m"

/-- A piece of text of one style. -/
structure Piece where
  text : String
  style : Style := .bare
  deriving DecidableEq, Repr

instance : Coe String Piece := ⟨fun text => { text }⟩

namespace Piece

/-- A title. -/
def heading (text : String) : Piece := ⟨text, .heading⟩

/-- Text to be typed as it stands. -/
def literal (text : String) : Piece := ⟨text, .literal⟩

/-- The mark of a failure. -/
def failure (text : String) : Piece := ⟨text, .failure⟩

/-- Text that would be accepted. -/
def accepted (text : String) : Piece := ⟨text, .accepted⟩

/-- Text that was refused. -/
def refused (text : String) : Piece := ⟨text, .refused⟩

/-- A piece as it is written. -/
def shown (coloured : Bool) (piece : Piece) : String :=
  if coloured then piece.style.opening ++ piece.text ++ piece.style.closing
  else Terminal.plain piece.text

end Piece

/-- Text in pieces. -/
abbrev Styled := List Piece

namespace Styled

/-- Text that is not set off. -/
def bare (text : String) : Styled := [{ text }]

/-- The text as it is written. -/
def shown (coloured : Bool) (text : Styled) : String :=
  String.ofList (text.flatMap fun piece => (piece.shown coloured).toList)

/-- The characters of the pieces. -/
def width (text : Styled) : Nat := text.foldl (fun width piece => width + piece.text.length) 0

end Styled

end ImageLaunch.Text
