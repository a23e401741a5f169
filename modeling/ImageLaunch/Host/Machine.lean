import ImageLaunch.Files
import ImageLaunch.Output

/-!
# ImageLaunch.Host.Machine

What running processes share: the files, the pipe that their first process is fed
through, the bytes in between them, and what has come out.

Words of a command line are texts whose characters are numbered like bytes, so that
any byte string is a word and can be written down as one.
-/

namespace ImageLaunch.Host

/-! ## Words -/

/-- The word that some bytes make. -/
def wordOf (bytes : Bytes) : String :=
  String.ofList (bytes.map fun byte => Char.ofNat byte.toNat)

/-- The bytes of a word. -/
def bytesOf (word : String) : Bytes := word.toList.map fun c => UInt8.ofNat c.toNat

/-! ## Descriptors -/

/-- Where a process reads. -/
inductive Source
  /-- The pipe that the first process is fed through. -/
  | pipe
  /-- Bytes kept in the machine. -/
  | slot (index : Nat)
  | nothing
  | closed
  deriving DecidableEq, Repr

/-- Where a process writes. -/
inductive Sink
  | stream (stream : Stream)
  /-- Bytes kept in the machine. -/
  | slot (index : Nat)
  | file (path : Bytes)
  | nothing
  | closed
  deriving DecidableEq, Repr

/-- The descriptors of a process: the usual three, and others by number. -/
structure Descriptors where
  input : Source := .pipe
  output : Sink := .stream .output
  errors : Sink := .stream .errors
  others : List (Nat × Sink) := []
  deriving DecidableEq, Repr

/-- The sink behind a descriptor. -/
def Descriptors.sink (descriptors : Descriptors) (number : Nat) : Sink :=
  if number = 1 then descriptors.output
  else if number = 2 then descriptors.errors
  else (descriptors.others.lookup number).getD .closed

/-- Gives a descriptor another sink. -/
def Descriptors.withSink (descriptors : Descriptors) (number : Nat) (sink : Sink) : Descriptors :=
  if number = 1 then { descriptors with output := sink }
  else if number = 2 then { descriptors with errors := sink }
  else { descriptors with others := (number, sink) :: descriptors.others }

/-! ## The machine -/

/-- What running processes share. -/
structure Machine where
  files : Files
  /-- What is left in the pipe, or still to come through it. -/
  unread : Bytes
  /-- How many bytes have been taken out of the pipe. -/
  taken : Nat := 0
  slots : Array Bytes := #[]
  /-- What came out, last things first. -/
  written : List (Stream × Bytes) := []

/-- An action on the machine. -/
abbrev Action := StateM Machine

/-- A bad descriptor. -/
def badDescriptor : IoError := .system 9

/-- A new slot, which holds some bytes. -/
def newSlot (bytes : Bytes) : Action Nat :=
  modifyGet fun machine => (machine.slots.size, { machine with slots := machine.slots.push bytes })

/-- What a slot holds. -/
def slotContents (index : Nat) : Action Bytes := do return ((← get).slots[index]?).getD []

/-- What a source still has. -/
def pending : Source → Action (Except IoError Bytes)
  | .pipe => do return .ok (← get).unread
  | .slot index => do return .ok (← slotContents index)
  | .nothing => return .ok []
  | .closed => return .error badDescriptor

/-- Takes so many bytes from a source. -/
def consume (source : Source) (count : Nat) : Action Unit :=
  modify fun machine =>
    match source with
    | .pipe =>
      { machine with
        unread := machine.unread.drop count
        taken := machine.taken + min count machine.unread.length }
    | .slot index =>
      { machine with
        slots := machine.slots.setIfInBounds index ((machine.slots[index]?.getD []).drop count) }
    | .nothing | .closed => machine

/-- Takes everything a source has. -/
def readAll (source : Source) : Action (Except IoError Bytes) := do
  match ← pending source with
  | .ok bytes =>
    consume source bytes.length
    return .ok bytes
  | .error error => return .error error

/-- Writes bytes. -/
def write (sink : Sink) (bytes : Bytes) : Action Unit :=
  modify fun machine =>
    match sink with
    | .stream stream => { machine with written := (stream, bytes) :: machine.written }
    | .slot index =>
      { machine with
        slots := machine.slots.setIfInBounds index ((machine.slots[index]?.getD []) ++ bytes) }
    | .file path =>
      match machine.files.contents path with
      | .ok contents =>
        match machine.files.write path (contents ++ bytes) with
        | .ok files => { machine with files := files }
        | .error _ => machine
      | .error _ => machine
    | .nothing | .closed => machine

/-- Writes a word. -/
def say (sink : Sink) (word : String) : Action Unit := write sink (bytesOf word)

/-- The text of a failure, without its number. -/
def reason (error : IoError) : String :=
  match error with
  | .system number => IoError.systemText number
  | error => error.message

end ImageLaunch.Host
