import ImageLaunch.Numeral

/-!
# ImageLaunch.Text.Excerpt

The line of a text that a complaint is about, with the place marked below it:

```
LABEL at line 2, column 7
  |
2 | key = 5
  |       ^
```

Columns count characters, marks count bytes; there is at least one mark, and none
past the end of the line.
-/

namespace ImageLaunch.Text

/-- The characters whose bytes lie before an offset, and the others. -/
def splitAtByte (offset : Nat) : List Char → List Char × List Char
  | [] => ([], [])
  | c :: rest =>
    if c.utf8Size ≤ offset then
      let (before, after) := splitAtByte (offset - c.utf8Size) rest
      (c :: before, after)
    else ([], c :: rest)

/-- The number of bytes that spell some characters. -/
def byteLength (chars : List Char) : Nat := (String.ofList chars).utf8ByteSize

/-- Marks the bytes from `start` up to `stop` in their line. -/
def excerpt (label source : String) (start stop : Nat) : String :=
  let (before, after) := splitAtByte start source.toList
  let isBreak (c : Char) : Bool := c = '\n'
  let row := before.countP isBreak + 1
  let lead := (before.reverse.takeWhile (!isBreak ·)).reverse
  let line := lead ++ after.takeWhile (!isBreak ·)
  let marks := max 1 (min (stop - start) (byteLength line - lead.length))
  let number := Numeral.decimal row
  let gutter := String.ofList (List.replicate (number.length + 1) ' ') ++ "|"
  label ++ " at line " ++ number ++ ", column " ++ Numeral.decimal (lead.length + 1) ++ "\n" ++
    gutter ++ "\n" ++
    number ++ " | " ++ String.ofList line ++ "\n" ++
    gutter ++ String.ofList (List.replicate (lead.length + 1) ' ') ++
    String.ofList (List.replicate marks '^') ++ "\n"

end ImageLaunch.Text
