import ImageLaunch.Host.Script

/-!
# ImageLaunch.Host.Script.Words

Reading a script into tokens: words, operators, and redirections.
-/

namespace ImageLaunch.Host

/-- A piece of a script. -/
inductive Token
  | word (line : Nat) (word : Word)
  | redirect (descriptor : Nat) (operator : String)
  | operator (text : String)
  deriving DecidableEq, Repr

/-- What is wrong with the form of a script. -/
abbrev Misformed := String

/-! ## Characters -/

/-- A character that ends an unquoted word. -/
def endsWord (c : Char) : Bool := " \t\n;&|<>()".toList.contains c

/-- A character that a name may start with. -/
def startsName (c : Char) : Bool := c.isAlpha || c = '_'

/-- A character of a name. -/
def inName (c : Char) : Bool := c.isAlphanum || c = '_'

/-- A variable whose name is one character that is no letter. -/
def isSpecial (c : Char) : Bool := "@*#?$!-".toList.contains c || c.isDigit

/-! ## What stands inside a word -/

/-- The text up to what closes, and what follows it; `quote` is the quotation mark we
are inside of. -/
def untilClosing (opening closing : Char) (quote : Option Char) :
    Nat → List Char → Option (List Char × List Char)
  | _, [] => none
  | depth, '\\' :: c :: rest => do
    let (inside, rest) ← untilClosing opening closing quote depth rest
    return ('\\' :: c :: inside, rest)
  | depth, c :: rest =>
    let goOn (quote : Option Char) (depth : Nat) : Option (List Char × List Char) := do
      let (inside, rest) ← untilClosing opening closing quote depth rest
      return (c :: inside, rest)
    match quote with
    | some mark => if c = mark then goOn none depth else goOn quote depth
    | none =>
      if c = '\x22' ∨ c = '\x27' then goOn (some c) depth
      else if c = opening then goOn none (depth + 1)
      else if c = closing then
        match depth with
        | 0 => some ([], rest)
        | depth + 1 => goOn none depth
      else goOn none depth

/-- The text up to a mark, and what follows that. -/
def untilMark (mark : Char) (text : List Char) : Option (List Char × List Char) :=
  let inside := text.takeWhile (· ≠ mark)
  match text.drop inside.length with
  | _ :: rest => some (inside, rest)
  | [] => none

/-- The script between backquotes, where a backslash keeps a few characters from their
meaning; and what follows it. -/
def untilBackquote : List Char → Option (List Char × List Char)
  | [] => none
  | '\x60' :: rest => some ([], rest)
  | '\\' :: c :: rest => do
    let (inside, rest) ← untilBackquote rest
    return (if c = '\x60' ∨ c = '$' ∨ c = '\\' then c :: inside else '\\' :: c :: inside, rest)
  | c :: rest => do
    let (inside, rest) ← untilBackquote rest
    return (c :: inside, rest)

/-- What stands in parentheses after a dollar sign: an expression if they are double,
and else a script. -/
def insideParentheses (quoted : Bool) (inside : List Char) : Part :=
  match inside, inside.getLast? with
  | '(' :: expression, some ')' => .arithmetic quoted (String.ofList expression.dropLast)
  | _, _ => .command quoted (String.ofList inside)

/-- What follows a dollar sign. -/
def readDollar (quoted : Bool) : List Char → Except Misformed (Part × List Char)
  | '(' :: rest =>
    match untilClosing '(' ')' none 0 rest with
    | some (inside, rest) => .ok (insideParentheses quoted inside, rest)
    | none => .error "end of file unexpected (expecting \")\")"
  | '\x7b' :: rest =>
    match untilClosing '\x7b' '\x7d' none 0 rest with
    | some (form, rest) => .ok (.parameter quoted (String.ofList form), rest)
    | none => .error "Missing '\x7d'"
  | c :: rest =>
    if startsName c then
      let name := (c :: rest).takeWhile inName
      .ok (.parameter quoted (String.ofList name), (c :: rest).drop name.length)
    else if isSpecial c then .ok (.parameter quoted (String.singleton c), rest)
    else .ok (.text quoted "$", c :: rest)
  | [] => .ok (.text quoted "$", [])

/-- A quoted text that does not end. -/
def unterminated : Misformed := "Unterminated quoted string"

/-- The parts up to a character that ends the word, or up to the double quote that
closes. -/
def readParts (ends : Char → Bool) :
    Nat → Bool → List Char → Except Misformed (Word × List Char)
  | 0, _, _ => .error unterminated
  | _, quoted, [] => if quoted then .error unterminated else .ok ([], [])
  | steps + 1, quoted, c :: rest =>
    let goOn (parts : Word) (rest : List Char) : Except Misformed (Word × List Char) := do
      let (more, rest) ← readParts ends steps quoted rest
      return (parts ++ more, rest)
    if quoted && c = '\x22' then .ok ([], rest)
    else if !quoted && ends c then .ok ([], c :: rest)
    else if c = '$' then do
      let (part, rest) ← readDollar quoted rest
      goOn [part] rest
    else if c = '\x60' then
      match untilBackquote rest with
      | some (inside, rest) => goOn [.command quoted (String.ofList inside)] rest
      | none => .error "EOF in backquote substitution"
    else if c = '\\' then
      match rest with
      | [] => goOn [.text true "\\"] []
      | '\n' :: rest => goOn [] rest
      | next :: rest =>
        if quoted && !"$\x60\"\\".toList.contains next then
          goOn [.text true (String.ofList ['\\', next])] rest
        else goOn [.text true (String.singleton next)] rest
    else if quoted then goOn [.text true (String.singleton c)] rest
    else if c = '\x27' then
      match untilMark '\x27' rest with
      | some (inside, rest) => goOn [.text true (String.ofList inside)] rest
      | none => .error unterminated
    else if c = '\x22' then do
      let (inside, rest) ← readParts ends steps true rest
      goOn (.text true "" :: inside) rest
    else goOn [.text false (String.singleton c)] rest

/-- A whole text as one word, which nothing ends. -/
def wholeWord (quoted : Bool) (text : String) : Word :=
  let marked := if quoted then text.toList ++ ['\x22'] else text.toList
  match readParts (fun _ => false) (marked.length + 1) quoted marked with
  | .ok (word, _) => word
  | .error _ => [.text true text]

/-! ## Tokens -/

/-- The operators, longer ones first. -/
def operators : List String := ["&&", "||", ";;", ";", "&", "|", "(", ")", "\n"]

/-- The operators that redirect, longer ones first; two of them take their input from the
script itself. -/
def redirections : List String := ["<<-", "<<", ">>", ">&", ">|", "<&", "<>", ">", "<"]

/-- The first of some texts that comes next, and what follows it. -/
def firstOf (texts : List String) (script : List Char) : Option (String × List Char) :=
  (texts.find? fun text => text.toList.isPrefixOf script).map fun text =>
    (text, script.drop text.length)

/-- A redirection, with the descriptor in front if it is written. -/
def readRedirect (script : List Char) : Option (Token × List Char) :=
  let digits := script.takeWhile Char.isDigit
  match firstOf redirections (script.drop digits.length) with
  | none => none
  | some (operator, rest) =>
    let usual := if operator.startsWith "<" then 0 else 1
    some (.redirect ((String.ofList digits).toNat?.getD usual) operator, rest)

/-- The lines up to the one that is the mark, and what follows that; tabs in front count
for nothing if `untabbed` is set. -/
def untilLine (mark : List Char) (untabbed : Bool) : Nat → List Char → List Char × List Char
  | 0, text => (text, [])
  | _, [] => ([], [])
  | steps + 1, text =>
    let line := text.takeWhile (· ≠ '\n')
    let rest := text.drop (line.length + 1)
    let line := if untabbed then line.dropWhile (· = '\t') else line
    if line = mark then ([], rest)
    else
      let (more, rest) := untilLine mark untabbed steps rest
      (line ++ '\n' :: more, rest)

/-- The text of a word that stands for itself, and whether anything in it was quoted. -/
def spelled : Word → Bool × String
  | [] => (false, "")
  | .text quoted piece :: more =>
    let (literal, rest) := spelled more
    (quoted || literal, piece ++ rest)
  | _ :: more => spelled more

/-- Takes a text that stands in the script, in the lines after the one at hand, up to a
mark; a mark with anything quoted in it keeps the text as it is. -/
def readInlined (untabbed : Bool) (script : List Char) :
    Except Misformed (Word × List Char) := do
  let script := script.dropWhile fun c => c = ' ' || c = '\t'
  let (mark, rest) ← readParts endsWord (script.length + 1) false script
  let (literal, ending) := spelled mark
  let line := rest.takeWhile (· ≠ '\n')
  let after := rest.drop (line.length + 1)
  let (body, after) := untilLine ending.toList untabbed (after.length + 1) after
  let word := if literal then [.text true (String.ofList body)]
    else wholeWord true (String.ofList body)
  return (word, line ++ '\n' :: after)

/-- The line feeds that a word holds. -/
def breaksIn (word : Word) : Nat :=
  word.foldl (fun count part =>
    let text := match part with
      | .text _ text | .parameter _ text | .command _ text | .arithmetic _ text => text
    count + text.toList.countP (· = '\n')) 0

/-- Cuts a script into tokens; `line` is the line at hand. -/
def tokens (line : Nat) : Nat → List Char → Except Misformed (List Token)
  | 0, _ => .error unterminated
  | _, [] => .ok []
  | steps + 1, c :: rest =>
    if c = ' ' ∨ c = '\t' then tokens line steps rest
    else if c = '#' then tokens line steps (rest.dropWhile (· ≠ '\n'))
    else match c, rest with
      | '\\', '\n' :: rest => tokens (line + 1) steps rest
      | _, _ =>
        match readRedirect (c :: rest) with
        | some (.redirect descriptor operator, rest) => do
          if operator = "<<" ∨ operator = "<<-" then
            let (body, rest) ← readInlined (operator = "<<-") rest
            return .redirect descriptor "<<" :: .word line body :: (← tokens line steps rest)
          else return .redirect descriptor operator :: (← tokens line steps rest)
        | some (token, rest) => do return token :: (← tokens line steps rest)
        | none =>
          match firstOf operators (c :: rest) with
          | some (operator, rest) => do
            let line := if operator = "\n" then line + 1 else line
            return .operator operator :: (← tokens line steps rest)
          | none => do
            let (word, rest) ← readParts endsWord (rest.length + 2) false (c :: rest)
            return .word line word :: (← tokens (line + breaksIn word) steps rest)

end ImageLaunch.Host
