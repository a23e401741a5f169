/-!
# ImageLaunch.Host.Pattern

Patterns of the shell: an asterisk stands for any text, a question mark for any
character, brackets for one of some characters, and a backslash keeps the character
after it from its meaning.
-/

namespace ImageLaunch.Host

/-- One item of a pattern. -/
inductive PatternItem
  | char (c : Char)
  | any
  | run
  /-- One of some ranges, or none of them. -/
  | among (negated : Bool) (ranges : List (Char × Char))
  deriving DecidableEq, Repr

/-- A pattern. -/
abbrev Pattern := List PatternItem

namespace Pattern

/-- The ranges between brackets, and what follows them; a bracket that closes stands for
itself in the first place. -/
def readRanges (first : Bool) : List Char → Option (List (Char × Char) × List Char)
  | [] => none
  | c :: rest =>
    if c = ']' && !first then some ([], rest)
    else match rest with
      | '-' :: high :: more =>
        if high = ']' then do
          let (ranges, rest) ← readRanges false ('-' :: high :: more)
          return ((c, c) :: ranges, rest)
        else do
          let (ranges, rest) ← readRanges false more
          return ((c, high) :: ranges, rest)
      | rest => do
        let (ranges, rest) ← readRanges false rest
        return ((c, c) :: ranges, rest)

/-- A bracket with what follows it, as an item; an open one stands for itself. -/
def readBracket (rest : List Char) : PatternItem × List Char :=
  let (negated, inside) := match rest with
    | '!' :: inside | '^' :: inside => (true, inside)
    | inside => (false, inside)
  match readRanges true inside with
  | some (ranges, rest) => (.among negated ranges, rest)
  | none => (.char '[', rest)

/-- Reads a pattern, in at most so many steps. -/
def read : Nat → List Char → Pattern
  | 0, _ => []
  | _, [] => []
  | steps + 1, c :: rest =>
    match c, rest with
    | '*', rest => .run :: read steps rest
    | '?', rest => .any :: read steps rest
    | '\\', next :: rest => .char next :: read steps rest
    | '[', rest =>
      let (item, rest) := readBracket rest
      item :: read steps rest
    | c, rest => .char c :: read steps rest

/-- The pattern that a text is. -/
def ofString (text : String) : Pattern := read text.length text.toList

/-- One character against one item. -/
def admits (c : Char) : PatternItem → Bool
  | .char d => c = d
  | .any | .run => true
  | .among negated ranges => (ranges.any fun (low, high) => low ≤ c && c ≤ high) != negated

/-- The pattern stands for the whole text. -/
def accepts : Pattern → List Char → Bool
  | [], text => text.isEmpty
  | .run :: rest, text =>
    accepts rest text || match text with
      | [] => false
      | _ :: more => accepts (.run :: rest) more
  | _ :: _, [] => false
  | item :: rest, c :: more => admits c item && accepts rest more
termination_by pattern text => pattern.length + text.length

/-- The text without the front or the end that a pattern stands for, the shortest or the
longest such piece; the whole text if there is none. -/
def trim (pattern : Pattern) (atEnd longest : Bool) (text : List Char) : List Char :=
  let sizes := List.range (text.length + 1)
  let sizes := if longest then sizes.reverse else sizes
  let fits (size : Nat) : Bool :=
    accepts pattern (if atEnd then text.drop (text.length - size) else text.take size)
  match sizes.find? fits with
  | some size => if atEnd then text.take (text.length - size) else text.drop size
  | none => text

end Pattern

end ImageLaunch.Host
