import ImageLaunch.CommandLine.Tool
import ImageLaunch.Output

/-!
# ImageLaunch.Tool

The segment tool: packing a payload file into a segment file, and showing the header
of a segment file.

A command acts on a world, the files and what has been printed, one step after the other.
A step that fails ends the command, and what was done before it stays done.
-/

namespace ImageLaunch.Tool

/-- What was being done to a file when it failed. -/
inductive Action
  | read
  | write
  | open
  | readHeader
  deriving DecidableEq, Repr

/-- The action and its file in words. -/
def Action.text (path : Bytes) : Action → String
  | .read => "read " ++ Path.display path
  | .write => "write " ++ Path.display path
  | .open => "open " ++ Path.display path
  | .readHeader => "read header of " ++ Path.display path

/-- Why a command failed. -/
inductive Failure
  | io (action : Action) (path : Bytes) (error : IoError)
  | pack (fault : Segment.PackFault)
  | selfCheck (fault : Segment.Fault)
  | decode (path : Bytes) (fault : Segment.Fault)
  | truncated (path : Bytes) (declared : UInt64) (actual : Nat)
  deriving DecidableEq, Repr

namespace Failure

/-- The failure without its cause. -/
def outermost : Failure → String
  | .io action path _ => action.text path
  | .pack fault => fault.outermost
  | .selfCheck fault => fault.message
  | .decode path _ => "decode " ++ Path.display path
  | .truncated path declared actual =>
    Path.display path ++ " is truncated: header declares " ++ Numeral.decimal declared.toNat ++
      " bytes, file has " ++ Numeral.decimal actual

/-- The failure with its cause. -/
def message (failure : Failure) : String :=
  match failure with
  | .io _ _ error => failure.outermost ++ ": " ++ error.message
  | .pack fault => fault.message
  | .selfCheck _ => failure.outermost
  | .decode _ fault => failure.outermost ++ ": " ++ fault.message
  | .truncated _ _ _ => failure.outermost

end Failure

/-! ## Acts -/

/-- What a command acts on: the files, and what has been printed so far. -/
structure World where
  files : Files
  printed : String := ""
  deriving DecidableEq, Repr

/-- An act on the world, which may fail with an `ε`. -/
abbrev Act (ε : Type) := EStateM ε World

namespace Act

variable {ε α : Type}

/-- Asks the files for something. -/
def look (question : Files → Except ε α) : Act ε α := do
  match question (← get).files with
  | .ok value => return value
  | .error error => throw error

/-- Goes on with a result. -/
def settle (result : Except ε α) : Act ε α := look fun _ => result

/-- Replaces a whole file, or fails and replaces nothing. -/
def replace (path contents : Bytes) : Act Failure Unit := do
  let files ← look fun files => (files.write path contents).mapError (.io .write path)
  modify fun world => { world with files := files }

/-- Prints a text. -/
def print (text : String) : Act ε Unit :=
  modify fun world => { world with printed := world.printed ++ text }

end Act

/-! ## Inspecting -/

/-- The header of the segment that a file's bytes make. -/
def headerOf (path contents : Bytes) : Except Failure Segment.Header :=
  match Bytes.block? Segment.headerSize contents with
  | none => .error (.io .readHeader path .shortRead)
  | some (raw, _) =>
    match Segment.Header.decode raw with
    | .error fault => .error (.decode path fault)
    | .ok header =>
      if contents.length < header.size.toNat then
        .error (.truncated path header.size contents.length)
      else .ok header

/-- The header of a segment file. -/
def readHeader (files : Files) (path : Bytes) : Except Failure Segment.Header :=
  match files.opened path with
  | .error error => .error (.io .open path error)
  | .ok .directory => .error (.io .readHeader path .isDirectory)
  | .ok (.file contents) => headerOf path contents

/-! ## Packing -/

/-- Packs a payload file into a segment file: the header that the segment got, read back from
the image before the image is written. -/
def writeSegment (arguments : CommandLine.PackArguments) : Act Failure Segment.Header := do
  let payload ← Act.look fun files =>
    (files.contents arguments.payload).mapError (.io .read arguments.payload)
  let image ← Act.settle ((Segment.packImage payload arguments.base arguments.reserve
    arguments.moduleOffset).mapError .pack)
  let header ← Act.settle ((Segment.Header.decode image.front).mapError .selfCheck)
  Act.replace arguments.output image.1
  return header

/-- What is said about a segment that has been written. -/
def wrote (path : Bytes) (header : Segment.Header) : String :=
  "wrote " ++ Path.display path ++ " (" ++ Numeral.decimal header.size.toNat ++ " bytes at " ++
    Numeral.hexadecimal header.base.toNat ++ ")\n"

/-! ## Commands -/

/-- Carries out a request. -/
def perform : CommandLine.ToolRequest → Act Failure Unit
  | .pack arguments => do
    let header ← writeSegment arguments
    Act.print (wrote arguments.output header)
  | .inspect path => do
    let header ← Act.look fun files => readHeader files path
    Act.print ("segment   " ++ Path.display path ++ "\n")
    Act.print header.describe

/-- Why the tool failed. -/
inductive Error
  | usage (error : CommandLine.UsageError)
  | failure (failure : Failure)
  deriving DecidableEq, Repr

/-- What the tool does with the given arguments, the program's own name first. -/
def command (argv : List Bytes) : Act Error Unit := do
  let request ← Act.settle ((CommandLine.parseTool argv).mapError .usage)
  EStateM.adaptExcept .failure (perform request)

/-- Runs the tool on the files. -/
def run (files : Files) (argv : List Bytes) : EStateM.Result Error World Unit :=
  (command argv).run { files := files }

/-- The tool as a program: help goes to the output if it was asked for. -/
def report (files : Files) (argv : List Bytes) (coloured : Bool := false) : Report × Files :=
  match run files argv with
  | .ok () world => ({ status := 0, output := Bytes.ofString world.printed }, world.files)
  | .error (.failure failure) world =>
    ({ status := 1
       output := Bytes.ofString world.printed
       errors := Bytes.ofString ("segment-tool: " ++ failure.message ++ "\n") }, world.files)
  | .error (.usage error) world =>
    let status := error.problem.exitCode
    let printed := Bytes.ofString world.printed
    let text := Bytes.ofString (error.text.shown coloured)
    (if status = 0 then { status := status, output := printed ++ text }
      else { status := status, output := printed, errors := text }, world.files)

end ImageLaunch.Tool
