import ImageLaunch.Text.Styled
import ImageLaunch.Text.Utf8

/-!
# ImageLaunch.CommandLine.Command

What a command accepts: options, at most one operand that must be given, and
possibly trailing arguments.  `σ` is the type of settings: reading an option or
the operand yields one.  The usage line and the help text are read off the
description.
-/

namespace ImageLaunch.CommandLine

open Text (Piece Styled)

/-- What is wrong with a value. -/
inductive ValueFault
  /-- Nothing where something is needed. -/
  | empty
  /-- A text is needed and the bytes are no UTF-8. -/
  | notText
  /-- The reader of the value refused it, for a reason. -/
  | refused (value reason : String)
  deriving DecidableEq, Repr

/-- Any value but an empty one, as it is. -/
def nonEmpty (value : Bytes) : Except ValueFault Bytes :=
  if value = [] then .error .empty else .ok value

/-- What giving an option does. -/
inductive Effect (σ : Type)
  | help
  | version
  | set (setting : σ)
  | value (placeholder : String) (read : Bytes → Except ValueFault σ)

/-- An option. -/
structure OptionSpec (σ : Type) where
  long : String
  short : Option Char
  about : String
  effect : Effect σ
  required : Bool := false

/-- The option that every command has. -/
def helpOption {σ : Type} : OptionSpec σ :=
  { long := "help", short := some 'h', about := "Print help", effect := .help }

/-- An operand, taken by its place. -/
structure OperandSpec (σ : Type) where
  name : String
  about : String
  read : Bytes → Except ValueFault σ

/-- Arguments that are taken as they are once the first of them has come. -/
structure TrailingSpec where
  name : String
  about : String

/-- A command: what it is for, and what it accepts. -/
structure Command (σ : Type) where
  about : String
  version : String := ""
  options : List (OptionSpec σ)
  operand : Option (OperandSpec σ) := none
  trailing : Option TrailingSpec := none
  /-- Pairs of options, by their long names, that exclude each other. -/
  conflicts : List (String × String) := []

/-- An option or the operand: what a value can be given to. -/
inductive Subject (σ : Type)
  | option (spec : OptionSpec σ)
  | operand (spec : OperandSpec σ)

/-! ## Names as they are shown -/

/-- An option with its placeholder. -/
def OptionSpec.shown {σ : Type} (spec : OptionSpec σ) : String :=
  match spec.effect with
  | .value placeholder _ => "--" ++ spec.long ++ " <" ++ placeholder ++ ">"
  | _ => "--" ++ spec.long

/-- An option with its placeholder, the option to be typed as it stands. -/
def OptionSpec.styled {σ : Type} (spec : OptionSpec σ) : Styled :=
  match spec.effect with
  | .value placeholder _ => [.literal ("--" ++ spec.long), " <" ++ placeholder ++ ">"]
  | _ => [.literal ("--" ++ spec.long)]

/-- The option sets something, and does not only show a text. -/
def OptionSpec.sets {σ : Type} (spec : OptionSpec σ) : Bool :=
  match spec.effect with
  | .help | .version => false
  | _ => true

/-- An operand in angle brackets. -/
def OperandSpec.shown {σ : Type} (spec : OperandSpec σ) : String := "<" ++ spec.name ++ ">"

namespace Subject

variable {σ : Type}

/-- The subject as messages name it. -/
def shown : Subject σ → String
  | .option spec => spec.shown
  | .operand spec => spec.shown

/-- The subject has to be given. -/
def required : Subject σ → Bool
  | .option spec => spec.required
  | .operand _ => true

/-- The subject is an option. -/
def isOption : Subject σ → Bool
  | .option _ => true
  | .operand _ => false

/-- The same option or operand. -/
def same (a b : Subject σ) : Bool := a.shown = b.shown

end Subject

namespace Command

variable {σ : Type}

/-! ## The usage line -/

/-- Options that have to be given. -/
def requiredOptions (command : Command σ) : List (OptionSpec σ) :=
  command.options.filter (·.required)

/-- There are options worth a mention of their own. -/
def hasOptions (command : Command σ) : Bool :=
  command.options.any fun spec => spec.sets && !spec.required

/-- A usage line with its title. -/
def titled (usage : Styled) : Styled := .heading "Usage:" :: " " :: usage

/-- A usage line: the words that call a command, and what follows them. -/
def usageLine (calledBy : String) (words : List Styled) : Styled :=
  .literal calledBy :: words.flatMap fun word => " " :: word

/-- The usage line of a command called by the given words.  If some subjects are in use
the line shows them, and otherwise a placeholder for all options; what is required is
always shown, options first. -/
def usage (command : Command σ) (calledBy : String) (used : List (Subject σ))
    (trailingUsed : Bool := false) : Styled :=
  let placeholder := if used.isEmpty ∧ command.hasOptions then [Styled.bare "[OPTIONS]"] else []
  let required := command.requiredOptions.map (·.styled)
  let others := used.filterMap fun
    | .option spec => if spec.required then none else some spec.styled
    | .operand _ => none
  let operand := command.operand.toList.map fun spec => Styled.bare spec.shown
  let trailing := command.trailing.toList.map fun spec =>
    Styled.bare (if trailingUsed then "<" ++ spec.name ++ ">..." else "[" ++ spec.name ++ "]...")
  usageLine calledBy (placeholder ++ required ++ others.eraseDups ++ operand ++ trailing)

/-- Everything that can be set, as one choice. -/
def choice (command : Command σ) : String :=
  let options := (command.options.filter (·.sets)).map (·.shown)
  let operands := command.operand.toList.map (·.name) ++ command.trailing.toList.map (·.name)
  "<" ++ "|".intercalate (options ++ operands) ++ ">"

/-- The usage line for an option while something has been set already: the choice
among all that can be set, after the option if it is none of those. -/
def choiceUsage (command : Command σ) (calledBy : String) (spec : OptionSpec σ) : Styled :=
  usageLine calledBy ((if spec.sets then [] else [spec.styled]) ++ [Styled.bare command.choice])

/-! ## The help text -/

/-- Two columns, the left one padded to its widest entry. -/
def columns (rows : List (Styled × String)) : Styled :=
  let width := rows.foldl (fun width row => max width row.1.width) 0
  rows.flatMap fun (left, right) =>
    let padding := String.ofList (List.replicate (width - left.width) ' ')
    Styled.bare "  " ++ left ++ Styled.bare (padding ++ "  " ++ right ++ "\n")

/-- A titled section, unless it is empty. -/
def sectionText (title : String) (rows : List (Styled × String)) : Styled :=
  if rows.isEmpty then []
  else Styled.bare "\n" ++ .heading (title ++ ":") :: Styled.bare "\n" ++ columns rows

/-- An option in the left column. -/
def optionRow (spec : OptionSpec σ) : Styled × String :=
  let short : Styled := match spec.short with
    | some letter => [.literal (String.ofList ['-', letter]), ", "]
    | none => ["    "]
  (short ++ spec.styled, spec.about)

/-- A help text: what the command is for, its usage, and titled sections. -/
def helpWith (about : String) (usage : Styled)
    (sections : List (String × List (Styled × String))) : Styled :=
  Styled.bare (about ++ "\n\n") ++ titled usage ++ Styled.bare "\n" ++
    sections.flatMap fun (title, rows) => sectionText title rows

/-- The help text of a command. -/
def help (command : Command σ) (calledBy : String) : Styled :=
  let arguments := command.operand.toList.map (fun spec => (Styled.bare spec.shown, spec.about)) ++
    command.trailing.toList.map fun spec => (Styled.bare ("[" ++ spec.name ++ "]..."), spec.about)
  helpWith command.about (command.usage calledBy [])
    [("Arguments", arguments), ("Options", command.options.map optionRow)]

end Command

/-! ## The program's name -/

/-- The last component of the path that a program was called by, dots and
trailing slashes aside, if there is one and it is text. -/
def programName? (path : Bytes) : Option String := do
  let parts := (Bytes.splitOn 0x2F path).filter fun part => part ≠ [] ∧ part ≠ [0x2E]
  let part ← parts.getLast?
  if part = [0x2E, 0x2E] then none else Text.Utf8.decode? part

end ImageLaunch.CommandLine
