import ImageLaunch.Host.Machine
import ImageLaunch.Numeral

/-!
# ImageLaunch.Host.Process

A process: what it is called and given, where it reads and writes, and how it complains.
A program is what a process does, and answers with an exit code.
-/

namespace ImageLaunch.Host

/-- A process. -/
structure Process where
  /-- What its complaints begin with. -/
  name : String
  args : List String
  environment : List (String × String)
  descriptors : Descriptors

/-- A program: what a process does, up to its exit code. -/
abbrev Program := Process → Action Nat

namespace Process

/-- Writes to the output. -/
def put (process : Process) (bytes : Bytes) : Action Unit := write process.descriptors.output bytes

/-- Writes a word to the output. -/
def print (process : Process) (word : String) : Action Unit := say process.descriptors.output word

/-- Complains and fails. -/
def fail (process : Process) (status : Nat) (text : String) : Action Nat := do
  say process.descriptors.errors (process.name ++ ": " ++ text ++ "\n")
  return status

/-- Everything in a file, or in the input for a lone hyphen. -/
def read (process : Process) (operand : String) : Action (Except IoError Bytes) := do
  if operand = "-" ∨ operand = "/dev/stdin" then readAll process.descriptors.input
  else if operand = "/dev/null" then return .ok []
  else return (← get).files.contents (bytesOf operand)

/-- Everything in some files, or in the input if there are none; a file that cannot be
read is a complaint and a status. -/
def readEach (process : Process) (status : Nat) (operands : List String) :
    Action (Bytes × Nat) := do
  let operands := if operands.isEmpty then ["-"] else operands
  operands.foldlM (fun (all, worst) operand => do
    match ← process.read operand with
    | .ok bytes => return (all ++ bytes, worst)
    | .error error => return (all, ← process.fail status (operand ++ ": " ++ reason error)))
    ([], 0)

/-- The options in front and behind, and the operands; a lone hyphen is an operand, and a
double one ends the options. -/
def splitOptions : List String → List String × List String
  | [] => ([], [])
  | "--" :: rest => ([], rest)
  | word :: rest =>
    let (options, operands) := splitOptions rest
    if word.startsWith "-" && word ≠ "-" then (word :: options, operands)
    else (options, word :: operands)

/-- The letters of some options. -/
def letters (options : List String) : List Char :=
  options.flatMap fun option => option.toList.drop 1

/-- Refuses an option. -/
def refuse (process : Process) (option : String) : Action Nat :=
  let complaint :=
    if option.startsWith "--" then "unrecognized option '" ++ option ++ "'"
    else "invalid option -- '" ++ String.ofList ((option.toList.drop 1).take 1) ++ "'"
  process.fail 1 (complaint ++ "\nTry '" ++ process.name ++ " --help' for more information.")

end Process

/-! ## Escapes -/

/-- The value of up to so many octal digits, and what follows. -/
def octal (most value : Nat) : List Char → Nat × List Char
  | [] => (value, [])
  | c :: rest =>
    match most with
    | 0 => (value, c :: rest)
    | most + 1 =>
      if '0' ≤ c ∧ c ≤ '7' then octal most (value * 8 + (c.toNat - '0'.toNat)) rest
      else (value, c :: rest)

/-- What a letter after a backslash stands for. -/
def letterEscape? : Char → Option Char
  | 'a' => some '\x07'
  | 'b' => some '\x08'
  | 'f' => some '\x0c'
  | 'n' => some '\n'
  | 'r' => some '\r'
  | 't' => some '\t'
  | 'v' => some '\x0b'
  | '\\' => some '\\'
  | _ => none

/-- Replaces escapes, in at most so many steps; `zeroed` asks for a zero in front of
octal digits.  Nothing follows a `\c`, and the flag says that there was one. -/
def unescape (zeroed : Bool) : Nat → List Char → List Char × Bool
  | 0, _ => ([], false)
  | _, [] => ([], false)
  | steps + 1, '\\' :: c :: rest =>
    let (chars, rest) :=
      match letterEscape? c with
      | some letter => ([letter], rest)
      | none =>
        if c = '0' ∧ zeroed then
          let (value, rest) := octal 3 0 rest
          ([Char.ofNat (value % 256)], rest)
        else if '0' ≤ c ∧ c ≤ '7' ∧ !zeroed then
          let (value, rest) := octal 3 0 (c :: rest)
          ([Char.ofNat (value % 256)], rest)
        else (['\\', c], rest)
    if c = 'c' then ([], true)
    else
      let (more, ended) := unescape zeroed steps rest
      (chars ++ more, ended)
  | steps + 1, c :: rest =>
    let (more, ended) := unescape zeroed steps rest
    (c :: more, ended)

/-- A text with its escapes replaced. -/
def unescaped (zeroed : Bool) (text : String) : List Char × Bool :=
  unescape zeroed (text.length + 1) text.toList

end ImageLaunch.Host
