import ImageLaunch.Host.Script.Words

/-!
# ImageLaunch.Host.Script.Lists

Putting the tokens of a script together to lists of pipelines.

| form | made of |
|---|---|
| list | pipelines, each after a semicolon, a line feed, `&`, `&&` or `||` |
| pipeline | an exclamation mark at will, and commands with bars between them |
| command | a compound command with redirections, a definition, or words |

A word has its meaning as a mark of a compound command only where a command may start.
Every reader takes fuel, and gives back the tokens that it leaves.
-/

namespace ImageLaunch.Host

/-- A reader of tokens. -/
abbrev Reader (α : Type) := List Token → Except Misformed (α × List Token)

/-- The text of a word that has nothing quoted and nothing to expand. -/
def plainText? (word : Word) : Option String :=
  word.foldl (fun text part =>
    match text, part with
    | some text, .text false more => some (text ++ more)
    | _, _ => none) (some "")

/-- The words that make compound commands. -/
def marks : List String := ["!", "case", "do", "done", "elif", "else", "esac", "fi", "for", "if",
  "in", "then", "until", "while", "\x7b", "\x7d"]

/-- The mark that a token is. -/
def mark? : Token → Option String
  | .word _ word => (plainText? word).filter marks.contains
  | _ => none

/-- A token as complaints show it. -/
def Token.shown (token : Token) : String :=
  match token, mark? token with
  | _, some mark => "\"" ++ mark ++ "\""
  | .word _ _, none => "word"
  | .redirect _ _, none => "redirection"
  | .operator "\n", none => "newline"
  | .operator text, none => "\"" ++ text ++ "\""

/-- A complaint about the next token. -/
def unexpected (rest : List Token) (expected : Option String) : Misformed :=
  let shown := match rest with
    | token :: _ => token.shown
    | [] => "end of file"
  shown ++ " unexpected" ++ match expected with
    | some mark => " (expecting \"" ++ mark ++ "\")"
    | none => ""

/-- Leaves out line feeds. -/
def skipBreaks : List Token → List Token
  | .operator "\n" :: rest => skipBreaks rest
  | rest => rest

/-- Takes a mark. -/
def takeMark (mark : String) (rest : List Token) : Except Misformed (List Token) :=
  match rest with
  | token :: after => if mark? token = some mark then .ok after
    else .error (unexpected rest (some mark))
  | [] => .error (unexpected rest (some mark))

/-- Takes an operator. -/
def takeOperator (operator : String) (rest : List Token) : Except Misformed (List Token) :=
  match rest with
  | token :: after => if token = .operator operator then .ok after
    else .error (unexpected rest (some operator))
  | [] => .error (unexpected rest (some operator))

/-! ## Simple commands -/

/-- The unquoted text in front of a word. -/
def leadingText : Word → String
  | .text false text :: rest => text ++ leadingText rest
  | _ => ""

/-- The word without so many characters of its leading text. -/
def dropLeading : Nat → Word → Word
  | 0, word => word
  | count + 1, .text false text :: rest =>
    if text.length ≤ count + 1 then dropLeading (count + 1 - text.length) rest
    else .text false (String.ofList (text.toList.drop (count + 1))) :: rest
  | _, word => word
termination_by _ word => word.length

/-- The text is a name for a variable. -/
def isName (text : String) : Bool := text.toList.all inName && text.toList.head?.any startsName

/-- A word that assigns a variable. -/
def assignment? (word : Word) : Option (String × Word) :=
  let lead := (leadingText word).toList
  let name := lead.takeWhile inName
  if (lead.drop name.length).head? = some '=' ∧ name.head?.any startsName then
    some (String.ofList name, dropLeading (name.length + 1) word)
  else none

/-- Adds a word to a command. -/
def Simple.addWord (simple : Simple) (word : Word) : Simple :=
  match simple.words, assignment? word with
  | [], some assignment => { simple with assignments := simple.assignments ++ [assignment] }
  | _, _ => { simple with words := simple.words ++ [word] }

/-- Takes redirections. -/
def readRedirects : Reader (List Redirect)
  | .redirect descriptor operator :: .word _ target :: rest => do
    let (more, rest) ← readRedirects rest
    return (⟨descriptor, operator, target⟩ :: more, rest)
  | .redirect _ _ :: rest => .error (unexpected rest none)
  | rest => .ok ([], rest)

/-- Takes words and redirections. -/
def readSimple (simple : Simple) : Reader Simple
  | .redirect descriptor operator :: .word _ target :: rest =>
    readSimple { simple with
      redirects := simple.redirects ++ [⟨descriptor, operator, target⟩] } rest
  | .redirect _ _ :: rest => .error (unexpected rest none)
  | .word _ word :: rest => readSimple (simple.addWord word) rest
  | rest => .ok (simple, rest)

/-- Takes words up to something else. -/
def readWords : Reader (List Word)
  | .word _ word :: rest => do
    let (more, rest) ← readWords rest
    return (word :: more, rest)
  | rest => .ok ([], rest)

/-- Takes patterns with bars between them, up to the parenthesis. -/
def readPatterns : Reader (List Word)
  | .word _ word :: .operator "|" :: rest => do
    let (more, rest) ← readPatterns rest
    return (word :: more, rest)
  | .word _ word :: rest => do return ([word], ← takeOperator ")" rest)
  | rest => .error (unexpected rest (some ")"))

/-- A command with redirections, if there are any. -/
def Command.with (command : Command) (redirects : List Redirect) : Command :=
  if redirects.isEmpty then command else .redirected command redirects

/-- The words of a loop over words, if they are written, up to its list. -/
def readEachWords (rest : List Token) : Except Misformed (Option (List Word) × List Token) := do
  match skipBreaks rest with
  | token :: after =>
    if mark? token = some "in" then
      let (words, rest) ← readWords after
      match rest with
      | .operator ";" :: rest | .operator "\n" :: rest => return (some words, rest)
      | _ => .error (unexpected rest none)
    else if token = .operator ";" then return (none, after)
    else return (none, token :: after)
  | [] => return (none, [])

/-! ## Lists -/

/-- No command starts here. -/
def endsList : List Token → Bool
  | [] => true
  | .operator text :: _ => text ≠ "("
  | token :: _ =>
    match mark? token with
    | some mark => ["then", "else", "elif", "fi", "do", "done", "esac", "\x7d"].contains mark
    | none => false

mutual

/-- Reads a list; it ends where no command starts. -/
def readList : Nat → Condition → Reader Steps
  | 0, _, rest => .error (unexpected rest none)
  | fuel + 1, condition, rest =>
    let rest := skipBreaks rest
    if endsList rest then
      if condition = .always then .ok ([], rest) else .error (unexpected rest none)
    else do
      let (pipeline, rest) ← readPipeline fuel { condition := condition, commands := [] } rest
      let goOn (condition : Condition) (pipeline : Pipeline Command) (rest : List Token) := do
        let (more, rest) ← readList fuel condition rest
        return (pipeline :: more, rest)
      match rest with
      | .operator ";" :: rest | .operator "\n" :: rest => goOn .always pipeline rest
      | .operator "&" :: rest => goOn .always { pipeline with inBackground := true } rest
      | .operator "&&" :: rest => goOn .afterSuccess pipeline rest
      | .operator "||" :: rest => goOn .afterFailure pipeline rest
      | rest => return ([pipeline], rest)

/-- Reads commands onto a pipeline. -/
def readPipeline : Nat → Pipeline Command → Reader (Pipeline Command)
  | 0, _, rest => .error (unexpected rest none)
  | fuel + 1, pipeline, rest => do
    match rest with
    | token :: after =>
      if pipeline.commands.isEmpty && mark? token = some "!" then
        readPipeline fuel { pipeline with negated := !pipeline.negated } after
      else
        let (command, rest) ← readCommand fuel rest
        let pipeline := { pipeline with commands := pipeline.commands ++ [command] }
        match rest with
        | .operator "|" :: rest => readPipeline fuel pipeline (skipBreaks rest)
        | rest => return (pipeline, rest)
    | [] => .error (unexpected rest none)

/-- Reads a command. -/
def readCommand : Nat → Reader Command
  | 0, rest => .error (unexpected rest none)
  | fuel + 1, rest => do
    match rest with
    | .operator "(" :: rest =>
      let (steps, rest) ← readFilled fuel ")" rest
      let (redirects, rest) ← readRedirects (← takeOperator ")" rest)
      return ((Command.subshell steps).with redirects, rest)
    | .word _ name :: .operator "(" :: after =>
      let (body, rest) ← readCommand fuel (skipBreaks (← takeOperator ")" after))
      return (.define ((plainText? name).getD "") body, rest)
    | token :: after =>
      match mark? token, token with
      | some mark, _ =>
        let (command, rest) ← readCompound fuel mark rest after
        let (redirects, rest) ← readRedirects rest
        return (command.with redirects, rest)
      | none, .operator _ => .error (unexpected rest none)
      | none, .word line _ =>
        let (simple, rest) ← readSimple { line := line } rest
        return (.simple simple, rest)
      | none, .redirect _ _ =>
        let (simple, rest) ← readSimple {} rest
        return (.simple simple, rest)
    | [] => .error (unexpected rest none)

/-- Reads a list that must not be empty, before something that is expected. -/
def readFilled : Nat → String → Reader Steps
  | 0, _, rest => .error (unexpected rest none)
  | fuel + 1, expected, rest => do
    let (steps, after) ← readList fuel .always rest
    if steps.isEmpty then
      .error (unexpected after (if after.isEmpty then some expected else none))
    else return (steps, after)

/-- Reads a compound command after its first mark. -/
def readCompound : Nat → String → List Token → Reader Command
  | 0, _, _, rest => .error (unexpected rest none)
  | fuel + 1, mark, whole, rest => do
    match mark with
    | "\x7b" =>
      let (steps, rest) ← readFilled fuel "\x7d" rest
      return (.group steps, ← takeMark "\x7d" rest)
    | "if" =>
      let ((arms, otherwise), rest) ← readArms fuel rest
      return (.branch arms otherwise, rest)
    | "while" | "until" =>
      let (condition, rest) ← readFilled fuel "do" rest
      let (body, rest) ← readFilled fuel "done" (← takeMark "do" rest)
      return (.loop (mark = "until") condition body, ← takeMark "done" rest)
    | "for" =>
      match rest with
      | .word _ name :: rest =>
        match (plainText? name).filter isName with
        | none => .error "Bad for loop variable"
        | some name =>
          let (words, rest) ← readEachWords rest
          let (body, rest) ← readFilled fuel "done" (← takeMark "do" (skipBreaks rest))
          return (.each name words body, ← takeMark "done" rest)
      | _ => .error "Bad for loop variable"
    | "case" =>
      match rest with
      | .word _ word :: rest =>
        let rest ← takeMark "in" (skipBreaks rest)
        let (arms, rest) ← readChoices fuel (skipBreaks rest)
        return (.choice word arms, rest)
      | _ => .error (unexpected rest none)
    | _ => .error (unexpected whole none)

/-- Reads the arms of a branch, from the first condition to the end. -/
def readArms : Nat → Reader (List (Steps × Steps) × Steps)
  | 0, rest => .error (unexpected rest none)
  | fuel + 1, rest => do
    let (condition, rest) ← readFilled fuel "then" rest
    let (body, rest) ← readFilled fuel "fi" (← takeMark "then" rest)
    match rest with
    | token :: after =>
      if mark? token = some "elif" then
        let ((arms, otherwise), rest) ← readArms fuel after
        return (((condition, body) :: arms, otherwise), rest)
      else if mark? token = some "else" then
        let (otherwise, rest) ← readFilled fuel "fi" after
        return (([(condition, body)], otherwise), ← takeMark "fi" rest)
      else return (([(condition, body)], []), ← takeMark "fi" rest)
    | [] => .error (unexpected rest (some "fi"))

/-- Reads the arms of a choice, to the end. -/
def readChoices : Nat → Reader (List (List Word × Steps))
  | 0, rest => .error (unexpected rest none)
  | fuel + 1, rest => do
    match rest with
    | token :: after =>
      if mark? token = some "esac" then return ([], after)
      else
        let (patterns, rest) ← readPatterns (if token = .operator "(" then after else rest)
        let (steps, rest) ← readList fuel .always rest
        match rest with
        | .operator ";;" :: rest =>
          let (more, rest) ← readChoices fuel (skipBreaks rest)
          return ((patterns, steps) :: more, rest)
        | token :: after =>
          if mark? token = some "esac" then return ([(patterns, steps)], after)
          else .error (unexpected rest (some ";;"))
        | [] => .error (unexpected rest (some ";;"))
    | [] => .error (unexpected rest (some ")"))

end

/-- The list that a script is, or what is wrong with its form. -/
def parseScript (script : String) : Except Misformed Steps := do
  let all ← tokens 1 (script.length + 1) script.toList
  let (steps, rest) ← readList (8 * all.length + 8) .always all
  if rest.isEmpty then return steps else .error (unexpected rest none)

end ImageLaunch.Host
