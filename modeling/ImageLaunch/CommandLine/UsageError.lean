import ImageLaunch.CommandLine.Command

/-!
# ImageLaunch.CommandLine.UsageError

Why a command line was not accepted, and the text shown for it.  Asking for help
or for the version is told the same way, since it too ends the reading of the
command line.

A text has up to four paragraphs: the problem, the tips, the usage line, and
where to find help.  Problems with a value alone show no usage line, and a command
that has no flag for help does not name one.  Parts of the command line are pieces of
their own, set off as what was refused or would be accepted.
-/

namespace ImageLaunch.CommandLine

open Text (Piece Styled)

/-- A hint at what may have been meant. -/
inductive Tip
  /-- A known option has a similar name. -/
  | similarOption (name : String)
  /-- A subcommand has such an option. -/
  | optionOf (subcommand name : String)
  /-- The argument can be given as a value after `--`. -/
  | asValue (argument : String)
  /-- Known subcommands have similar names. -/
  | similarSubcommands (names : List String)
  /-- The word is a subcommand that stands after `--`. -/
  | dropEscape (subcommand : String)
  deriving DecidableEq, Repr

/-- What is wrong with a command line, or what it asks for. -/
inductive Problem
  | missing (shown : List String)
  | unknown (argument : String) (tips : List Tip)
  | repeated (shown : String)
  | conflict (first second : String)
  | noValue (shown : String)
  | unneededValue (value shown : String)
  | invalidValue (value shown reason : String)
  | notText
  | badSubcommand (word : String) (similar : List String)
  | help (text : Styled)
  | version (text : String)
  /-- Nothing was given where a subcommand is needed; help is shown instead. -/
  | helpInstead (text : Styled)
  deriving DecidableEq, Repr

/-- A problem, with the usage line to show for it, and whether the command can be asked
for help. -/
structure UsageError where
  problem : Problem
  usage : Styled
  offersHelp : Bool := true
  deriving DecidableEq, Repr

/-- A tip in words. -/
def Tip.text : Tip → Styled
  | .similarOption name => ["a similar argument exists: '", .accepted ("--" ++ name), "'"]
  | .optionOf subcommand name => ["'", .accepted (subcommand ++ " --" ++ name), "' exists"]
  | .asValue argument =>
    ["to pass '", .refused argument, "' as a value, use '", .accepted ("-- " ++ argument), "'"]
  | .similarSubcommands [name] => ["a similar subcommand exists: '", .accepted name, "'"]
  | .similarSubcommands names =>
    "some similar subcommands exist: " ::
      List.intercalate [", "] (names.map fun name => ["'", .accepted name, "'"])
  | .dropEscape subcommand =>
    ["subcommand '", .accepted subcommand, "' exists; to use it, remove the '", .refused "--",
      "' before it"]

/-- A tip on a line of its own. -/
def Tip.line (tip : Tip) : Styled := "  " :: .accepted "tip:" :: " " :: tip.text

namespace Problem

/-- The problem in words. -/
def statement : Problem → Styled
  | .missing shown =>
    "the following required arguments were not provided:" ::
      shown.flatMap fun name => ["\n  ", .accepted name]
  | .unknown argument _ => ["unexpected argument '", .refused argument, "' found"]
  | .repeated shown => ["the argument '", .refused shown, "' cannot be used multiple times"]
  | .conflict first second =>
    ["the argument '", .refused first, "' cannot be used with '", .refused second, "'"]
  | .noValue shown => ["a value is required for '", .refused shown, "' but none was supplied"]
  | .unneededValue value shown =>
    ["unexpected value '", .refused value, "' for '", .literal shown,
      "' found; no more were expected"]
  | .invalidValue value shown reason =>
    ["invalid value '", .refused value, "' for '", .literal shown, "': " ++ reason]
  | .notText => ["invalid UTF-8 was detected in one or more arguments"]
  | .badSubcommand word _ => ["unrecognized subcommand '", .refused word, "'"]
  | .help text | .helpInstead text => text
  | .version text => [text]

/-- The tips that go with a problem. -/
def tips : Problem → List Tip
  | .unknown _ tips => tips
  | .badSubcommand _ [] => []
  | .badSubcommand _ similar => [.similarSubcommands similar]
  | _ => []

/-- The usage line is of help. -/
def showsUsage : Problem → Bool
  | .noValue _ | .invalidValue _ _ _ => false
  | _ => true

/-- The text was asked for, and it is all there is to show. -/
def asked? : Problem → Option Styled
  | .help text | .helpInstead text => some text
  | .version text => some [text]
  | _ => none

/-- The exit code of a program that ends here. -/
def exitCode : Problem → Nat
  | .help _ | .version _ => 0
  | _ => 2

end Problem

namespace UsageError

/-- Where to find help. -/
def helpHint : Styled := ["For more information, try '", .literal "--help", "'."]

/-- The paragraphs between the mark `error: ` and the final line feed. -/
def paragraphs (error : UsageError) (withUsage : Bool) : List Styled :=
  let tips := error.problem.tips.map Tip.line
  [error.problem.statement] ++
    (if tips.isEmpty then [] else [List.intercalate (Styled.bare "\n") tips]) ++
    (if withUsage && error.problem.showsUsage then [Command.titled error.usage] else []) ++
    (if error.offersHelp then [helpHint] else [])

/-- The whole text, without the mark `error: ` and the final line feed. -/
def body (error : UsageError) (withUsage : Bool := true) : Styled :=
  match error.problem.asked? with
  | some text => text
  | none => List.intercalate (Styled.bare "\n\n") (error.paragraphs withUsage)

/-- The whole text.  The final line feed belongs to its last paragraph, and goes with the
usage line if that is the last and is left out. -/
def text (error : UsageError) (withUsage : Bool := true) : Styled :=
  match error.problem.asked? with
  | some text => text
  | none =>
    .failure "error:" :: Styled.bare " " ++ error.body withUsage ++
      if withUsage || error.offersHelp then Styled.bare "\n" else []

end UsageError

end ImageLaunch.CommandLine
