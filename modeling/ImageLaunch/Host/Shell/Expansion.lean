import ImageLaunch.Host.Arithmetic
import ImageLaunch.Host.Pattern
import ImageLaunch.Host.Shell.Basic

/-!
# ImageLaunch.Host.Shell.Expansion

What words come to: variables are replaced by their values, scripts by what they write
and expressions by their numbers, and what was not quoted is cut at blanks.  A word may
stand inside another, as in `$\x7bx:-word\x7d`; how deep they nest is bounded.
-/

namespace ImageLaunch.Host

/-- An expansion, which may end in a complaint. -/
abbrev Expanding := ExceptT String Action

/-! ## Growing words -/

/-- The words that a word has grown into so far: the finished ones, the one at hand if
it has begun, the status of the last script in it, and the variables that it sets. -/
structure Growth where
  finished : List String := []
  current : Option String := none
  status : Option Nat := none
  assigned : List (String × String) := []

namespace Growth

/-- Adds text to the word at hand. -/
def add (growth : Growth) (text : String) : Growth :=
  { growth with current := some (growth.current.getD "" ++ text) }

/-- Ends the word at hand. -/
def cut (growth : Growth) : Growth :=
  { growth with finished := growth.finished ++ growth.current.toList, current := none }

/-- Adds text that is cut at some characters; between two of them that are no blanks
stands a word, be it empty. -/
def addCut (growth : Growth) (cuts : String) (text : String) : Growth :=
  let isBlank (c : Char) : Bool := c = ' ' || c = '\t' || c = '\n'
  text.toList.foldl (fun growth c =>
    if !cuts.contains c then growth.add (String.singleton c)
    else if isBlank c then growth.cut
    else (growth.add "").cut) growth

/-- Adds several words, the first one to the word at hand. -/
def addWords (growth : Growth) : List String → Growth
  | [] => growth
  | [word] => growth.add word
  | word :: rest => ((growth.add word).cut).addWords rest

/-- The words that it has come to. -/
def words (growth : Growth) : List String := growth.cut.finished

/-- The words as one text. -/
def text (growth : Growth) : String := " ".intercalate growth.words

end Growth

/-! ## Variables -/

/-- A variable as it is written: its name, whether its length is wanted, and what
follows the name. -/
structure Form where
  name : String
  length : Bool
  rest : List Char

/-- Reads a variable as it is written. -/
def Form.read (text : String) : Form :=
  let named (chars : List Char) : String × List Char :=
    let name := match chars with
      | c :: _ =>
        if c.isDigit then chars.takeWhile Char.isDigit
        else if startsName c then chars.takeWhile inName else [c]
      | [] => []
    (String.ofList name, chars.drop name.length)
  match text.toList with
  | '#' :: c :: rest =>
    if inName c then
      let (name, rest) := named (c :: rest)
      ⟨name, true, rest⟩
    else ⟨"#", false, c :: rest⟩
  | chars =>
    let (name, rest) := named chars
    ⟨name, false, rest⟩

/-- The value that a name stands for, if it is set. -/
def Shell.find? (shell : Shell) (name : String) : Option String :=
  match name with
  | "0" => some shell.name
  | "#" => some (Numeral.decimal shell.args.length)
  | "?" => some (Numeral.decimal shell.status)
  | "$" => some "2"
  | "@" | "*" => some (" ".intercalate shell.args)
  | "-" | "!" => some ""
  | _ =>
    match name.toNat? with
    | some place => shell.args[place - 1]?
    | none => shell.valueOf? name

/-- The characters at which values are cut that are not quoted. -/
def Shell.cuts (shell : Shell) : String := (shell.valueOf? "IFS").getD " \t\n"

/-- Adds the value of something in a word, which is cut unless it is quoted. -/
def Shell.addValue (shell : Shell) (growth : Growth) (quoted : Bool) (text : String) : Growth :=
  if quoted then growth.add text else growth.addCut shell.cuts text

/-- A text without the line feeds at its end. -/
def dropFinalBreaks (text : String) : String :=
  String.ofList (text.toList.reverse.dropWhile (· = '\n')).reverse

/-- Runs a script for what it writes. -/
def substitute (runner : Runner) (shell : Shell) (script : String) : Action (String × Nat) := do
  let slot ← newSlot []
  let inner := { shell with descriptors := { shell.descriptors with output := .slot slot } }
  let (inner, flow) ← runner.script inner script
  let written := (← slotContents slot).filter (· ≠ 0)
  return (dropFinalBreaks (wordOf written), flow.status inner.status)

/-- Keeps every character from its meaning in a pattern. -/
def shielded (text : String) : String :=
  String.ofList (text.toList.flatMap fun c => ['\\', c])

/-- The part is quoted. -/
def Part.isQuoted : Part → Bool
  | .text quoted _ | .parameter quoted _ | .command quoted _ | .arithmetic quoted _ => quoted

/-- The part as if it were quoted. -/
def Part.asQuoted : Part → Part
  | .text _ letters => .text true letters
  | .parameter _ form => .parameter true form
  | .command _ script => .command true script
  | .arithmetic _ expression => .arithmetic true expression

mutual

/-- Adds what a word comes to; `loose` words are cut at blanks in their own text too. -/
def expandInto (runner : Runner) (shell : Shell) (loose : Bool) :
    Nat → Growth → Word → Expanding Growth
  | 0, growth, _ => return growth
  | depth + 1, growth, word => word.foldlM (fun growth part => do
    match part with
    | .text quoted text =>
      return if loose && !quoted then growth.addCut shell.cuts text else growth.add text
    | .command quoted script =>
      let (text, status) ← substitute runner shell script
      return { shell.addValue growth quoted text with status := some status }
    | .arithmetic quoted expression =>
      let text := (← expandInto runner shell false depth {} (wholeWord true expression)).text
      match Arithmetic.evaluate shell.find? text with
      | .ok n => return shell.addValue growth quoted (Numeral.signed n)
      | .error fault => throw (fault.message text)
    | .parameter true "@" => return growth.addWords shell.args
    | .parameter quoted form =>
      expandParameter runner shell quoted depth growth (Form.read form)) growth

/-- Adds what a variable comes to. -/
def expandParameter (runner : Runner) (shell : Shell) (quoted : Bool) :
    Nat → Growth → Form → Expanding Growth
  | 0, growth, _ => return growth
  | depth + 1, growth, form => do
    let found := shell.find? form.name
    let (given, rest) := match form.rest with
      | ':' :: rest => (found.filter (· ≠ ""), rest)
      | rest => (found, rest)
    let inner (text : List Char) : Expanding Growth :=
      expandInto runner shell (!quoted) depth growth (wholeWord quoted (String.ofList text))
    let trimmed (atEnd longest : Bool) (text : List Char) : Expanding Growth := do
      let pattern ← expandPattern runner shell depth (wholeWord false (String.ofList text))
      let value := (found.getD "").toList
      return shell.addValue growth quoted (String.ofList (pattern.trim atEnd longest value))
    if form.length then
      return shell.addValue growth quoted (Numeral.decimal (found.getD "").length)
    else match rest with
      | '-' :: text =>
        match given with
        | some value => return shell.addValue growth quoted value
        | none => inner text
      | '=' :: text =>
        match given with
        | some value => return shell.addValue growth quoted value
        | none =>
          let value ← expandInto runner shell false depth {}
            ((wholeWord quoted (String.ofList text)).map Part.asQuoted)
          let growth := { growth with assigned := growth.assigned ++ [(form.name, value.text)] }
          return shell.addValue growth quoted value.text
      | '+' :: text => if given.isSome then inner text else return growth
      | '?' :: text =>
        match given with
        | some value => return shell.addValue growth quoted value
        | none =>
          let told := String.ofList text
          throw (form.name ++ ": " ++ if told = "" then "parameter not set" else told)
      | '#' :: '#' :: text => trimmed false true text
      | '#' :: text => trimmed false false text
      | '%' :: '%' :: text => trimmed true true text
      | '%' :: text => trimmed true false text
      | _ =>
        if found.isNone && shell.refusesUnset then throw (form.name ++ ": parameter not set")
        else if found.isNone && !quoted then return growth
        else return shell.addValue growth quoted (found.getD "")

/-- The pattern that a word comes to; what is quoted in it stands for itself. -/
def expandPattern (runner : Runner) (shell : Shell) : Nat → Word → Expanding Pattern
  | 0, _ => return []
  | depth + 1, word => do
    let text ← word.foldlM (fun text part => do
      let grown ← expandInto runner shell false depth {} [part.asQuoted]
      return text ++ if part.isQuoted then shielded grown.text else grown.text) ""
    return Pattern.ofString text

end

/-- How deep words may nest. -/
def wordDepth : Nat := 32

/-- What some words come to: words, the status of the last script in them, and the shell
with the variables that they set. -/
structure Expanded (α : Type) where
  shell : Shell
  value : α
  status : Option Nat := none

/-- Expands words to words. -/
def expandWords (runner : Runner) (shell : Shell) (words : List Word) :
    Expanding (Expanded (List String)) :=
  words.foldlM (fun (expanded : Expanded (List String)) word => do
    let growth ← expandInto runner expanded.shell false wordDepth {} word
    return {
      shell := expanded.shell.assignAll growth.assigned
      value := expanded.value ++ growth.words
      status := growth.status.or expanded.status }) { shell := shell, value := [] }

/-- Expands a word to one text. -/
def expandText (runner : Runner) (shell : Shell) (word : Word) : Expanding (Expanded String) := do
  let growth ← expandInto runner shell false wordDepth {} (word.map Part.asQuoted)
  return {
    shell := shell.assignAll growth.assigned, value := growth.text, status := growth.status }

end ImageLaunch.Host
