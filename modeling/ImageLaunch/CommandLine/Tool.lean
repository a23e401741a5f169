import ImageLaunch.CommandLine.Matching
import ImageLaunch.Segment.Image

/-!
# ImageLaunch.CommandLine.Tool

The segment tool's command line: a subcommand, `pack` or `inspect`, with its own
arguments, and `help` for each of them.
-/

namespace ImageLaunch.CommandLine

open Text (Piece Styled)

/-- One setting of a packing. -/
inductive PackSetting
  | payload (path : Bytes)
  | output (path : Bytes)
  | base (address : UInt64)
  | reserve (bytes : UInt64)
  | moduleOffset (offset : UInt64)
  deriving DecidableEq, Repr

/-- What to pack, where to, and how. -/
structure PackArguments where
  payload : Bytes
  output : Bytes
  base : UInt64
  reserve : Option UInt64
  moduleOffset : Option UInt64
  deriving DecidableEq, Repr

/-- What the tool is asked to do. -/
inductive ToolRequest
  | pack (arguments : PackArguments)
  | inspect (segment : Bytes)
  deriving DecidableEq, Repr

/-- Reads a number given as an option's value. -/
def readNumber (value : Bytes) : Except ValueFault UInt64 :=
  match Text.Utf8.decode? value with
  | none => .error .notText
  | some text => (Numeral.parse text).mapError (.refused text)

/-- The subcommand that packs. -/
def packCommand : Command PackSetting where
  about := "Wrap a raw payload into a loadable segment"
  options := [
    { long := "payload", short := some 'p', required := true
      about := "Raw segment contents placed right after the header"
      effect := .value "FILE" fun value => (nonEmpty value).map .payload },
    { long := "output", short := some 'o', required := true, about := "Output segment path"
      effect := .value "SEGMENT" fun value => (nonEmpty value).map .output },
    { long := "base", short := none
      about := "Address the segment expects to be mapped at [default: " ++
        Numeral.decimal Segment.defaultBase.toNat ++ "]"
      effect := .value "ADDR" fun value => (readNumber value).map .base },
    { long := "reserve", short := none
      about := "Bytes to reserve when mapping (defaults to the segment size)"
      effect := .value "BYTES" fun value => (readNumber value).map .reserve },
    { long := "module-offset", short := none
      about := "Offset of the module object from the segment start"
      effect := .value "OFFSET" fun value => (readNumber value).map .moduleOffset },
    helpOption]

/-- The subcommand that shows a header. -/
def inspectCommand : Command Bytes where
  about := "Print the header of an existing segment"
  options := [helpOption]
  operand := some { name := "SEGMENT", about := "", read := nonEmpty }

/-- Puts the settings of a packing in their places. -/
def PackArguments.ofMatches (found : Matches PackSetting) : PackArguments where
  payload := (found.settings.findSome? fun | .payload path => some path | _ => none).getD []
  output := (found.settings.findSome? fun | .output path => some path | _ => none).getD []
  base := (found.settings.findSome? fun | .base address => some address | _ => none).getD
    Segment.defaultBase
  reserve := found.settings.findSome? fun | .reserve bytes => some bytes | _ => none
  moduleOffset := found.settings.findSome? fun | .moduleOffset offset => some offset | _ => none

/-! ## Subcommands -/

/-- The words after the tool's name that select something. -/
inductive Subcommand
  | pack
  | inspect
  | help
  deriving DecidableEq, Repr

namespace Subcommand

/-- Every subcommand, in the order of the help text. -/
def all : List Subcommand := [.pack, .inspect, .help]

/-- The word for a subcommand. -/
def word : Subcommand → String
  | .pack => "pack"
  | .inspect => "inspect"
  | .help => "help"

/-- What a subcommand is for. -/
def about : Subcommand → String
  | .pack => packCommand.about
  | .inspect => inspectCommand.about
  | .help => "Print this message or the help of the given subcommand(s)"

/-- The long options of a subcommand. -/
def longOptions : Subcommand → List String
  | .pack => packCommand.options.map (·.long)
  | .inspect => inspectCommand.options.map (·.long)
  | .help => []

/-- The subcommand that an argument names. -/
def ofBytes? (argument : Bytes) : Option Subcommand :=
  all.find? fun subcommand => Bytes.ofString subcommand.word = argument

/-- The words that call a subcommand: the tool's name, if it has one, and the
subcommand's own word. -/
def calledBy (name : Option String) (subcommand : Subcommand) : String :=
  " ".intercalate (name.toList ++ [subcommand.word])

/-- The usage line of a subcommand. -/
def usage (name : Option String) (subcommand : Subcommand) : Styled :=
  let calledBy := subcommand.calledBy name
  match subcommand with
  | .pack => packCommand.usage calledBy []
  | .inspect => inspectCommand.usage calledBy []
  | .help => Command.usageLine calledBy [["[COMMAND]..."]]

/-- The help text of a subcommand. -/
def helpText (name : Option String) (subcommand : Subcommand) : Styled :=
  let calledBy := subcommand.calledBy name
  match subcommand with
  | .pack => packCommand.help calledBy
  | .inspect => inspectCommand.help calledBy
  | .help => Command.helpWith (about .help) (usage name .help)
      [("Arguments", [(["[COMMAND]..."], "Print help for the subcommand(s)")])]

/-- The subcommand has a flag for help. -/
def offersHelp : Subcommand → Bool
  | .pack | .inspect => true
  | .help => false

end Subcommand

/-! ## The tool itself -/

/-- The usage line of the tool, with the options that are in use.  A tool without a name
of its own is shown by its usual one. -/
def toolUsage (name : Option String) (used : List String := []) : Styled :=
  Command.usageLine (name.getD "segment-tool")
    (used.map (fun option => [Piece.literal option]) ++ [Styled.bare "<COMMAND>"])

/-- The help text of the tool. -/
def toolHelp (name : Option String) : Styled :=
  Command.helpWith "Pack and inspect image segment files" (toolUsage name)
    [("Commands", Subcommand.all.map fun subcommand =>
        ([Piece.literal subcommand.word], subcommand.about)),
      ("Options", [Command.optionRow (helpOption (σ := Empty))])]

/-- Ends the reading with a problem of the tool itself. -/
def toolError {α : Type} (name : Option String) (problem : Problem) (used : List String := []) :
    Except UsageError α :=
  .error { problem := problem, usage := toolUsage name used }

/-- Help for the subcommand that the words lead to. -/
def helpFor {α : Type} (name : Option String) (words : List Bytes) : Except UsageError α :=
  let unrecognized (word : Bytes) := Problem.badSubcommand (Text.Utf8.lossy word) []
  match words with
  | [] => toolError name (.help (toolHelp name))
  | word :: rest =>
    match Subcommand.ofBytes? word, rest with
    | none, _ => toolError name (unrecognized word)
    | some subcommand, [] =>
      .error { problem := .help (subcommand.helpText name), usage := subcommand.usage name }
    | some subcommand, next :: _ =>
      .error { problem := unrecognized next, usage := subcommand.usage name
               offersHelp := subcommand.offersHelp }

/-- Reads what follows a subcommand. -/
def parseSubcommand (name : Option String) (rest : List Bytes) (subcommand : Subcommand) :
    Except UsageError ToolRequest :=
  let calledBy := subcommand.calledBy name
  match subcommand with
  | .pack => (packCommand.parse calledBy rest).map fun found => .pack (.ofMatches found)
  | .inspect => (inspectCommand.parse calledBy rest).map fun found =>
      .inspect (found.settings.head?.getD [])
  | .help => helpFor name rest

/-- Refuses a word that is no subcommand. -/
def badSubcommand {α : Type} (name : Option String) (word : Bytes) : Except UsageError α :=
  let shown := Text.Utf8.lossy word
  let similar := Text.alike shown (Subcommand.all.map (·.word))
  toolError name (.badSubcommand shown similar)

/-- Reads an option of the tool itself; all it has is help. -/
def toolLong {α : Type} (name : Option String) (long : Bytes) (attached : Option Bytes)
    (rest : List Bytes) : Except UsageError α :=
  let shown := Text.Utf8.lossy long
  if Bytes.ofString "help" = long then
    match attached with
    | none => toolError name (.help (toolHelp name))
    | some value =>
      toolError name (.unneededValue (Text.Utf8.lossy value) "--help") ["--help"]
  else
    match (Text.alike shown ["help"]).getLast? with
    | some similar =>
      toolError name (.unknown ("--" ++ shown) [.similarOption similar]) ["--help"]
    | none =>
      let elsewhere := Subcommand.all.filterMap fun subcommand => do
        let option ← (Text.alike shown subcommand.longOptions).getLast?
        let place ← rest.findIdx? (· = Bytes.ofString subcommand.word)
        some (place, Tip.optionOf subcommand.word option)
      let nearest := elsewhere.foldl (fun best next =>
        match best with
        | some (place, _) => if next.1 < place then some next else best
        | none => some next) none
      toolError name (.unknown ("--" ++ shown) (nearest.toList.map (·.2)))

/-- Reads the segment tool's command line, the program's own name first. -/
def parseTool (argv : List Bytes) : Except UsageError ToolRequest :=
  let name := argv.head?.bind programName?
  match argv.tail with
  | [] => toolError name (.helpInstead (toolHelp name))
  | argument :: rest =>
    match Subcommand.ofBytes? argument with
    | some subcommand => parseSubcommand name rest subcommand
    | none =>
      match Command.Shape.of argument with
      | .escape =>
        match rest with
        | [] => toolError name (.helpInstead (toolHelp name))
        | word :: _ =>
          match Subcommand.ofBytes? word with
          | some subcommand =>
            toolError name (.unknown subcommand.word [.dropEscape subcommand.word])
          | none => badSubcommand name word
      | .long long attached => toolLong name long attached rest
      | .short letters =>
        if letters.head? = some 0x68 then toolError name (.help (toolHelp name))
        else toolError name (.unknown (Command.shownLetter letters) [])
      | .plain => badSubcommand name argument

end ImageLaunch.CommandLine
