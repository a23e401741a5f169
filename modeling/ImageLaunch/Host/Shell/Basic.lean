import ImageLaunch.Host.Script.Lists
import ImageLaunch.Host.Search

/-!
# ImageLaunch.Host.Shell.Basic

The state of a shell, the ways to leave what it is doing, and its complaints.
-/

namespace ImageLaunch.Host

/-- A variable, which the programs that are started see if it is exported. -/
structure Variable where
  value : String
  exported : Bool
  deriving DecidableEq, Repr

/-- A shell's own state. -/
structure Shell where
  /-- The name it goes by, which stands for `$0`. -/
  name : String
  args : List String
  entries : List (String × Variable)
  descriptors : Descriptors
  functions : List (String × Command) := []
  /-- What to do on a signal instead of ending; signal 0 is the end itself. -/
  traps : List (Nat × String) := []
  status : Nat := 0
  line : Nat := 1
  /-- How many loops we are in. -/
  loops : Nat := 0
  /-- What a function has changed for itself, as it was before; nothing outside of any. -/
  saved : Option (List (String × Option Variable)) := none
  stopsOnFailure : Bool := false
  refusesUnset : Bool := false

/-- How a command leaves the shell. -/
inductive Flow
  | go
  | exit (status : Nat)
  | killed (signal : Nat)
  /-- So many loops are left. -/
  | leave (loops : Nat)
  /-- So many loops are left, and the last of them goes on with its next turn. -/
  | next (loops : Nat)
  /-- A function is left. -/
  | back
  deriving DecidableEq, Repr

/-- The status that a shell sees of another process. -/
def Flow.status (last : Nat) : Flow → Nat
  | .exit status => status
  | .killed signal => 128 + signal
  | _ => last

namespace Shell

/-- The value of a variable. -/
def valueOf? (shell : Shell) (name : String) : Option String :=
  (shell.entries.lookup name).map (·.value)

/-- All variables with their values. -/
def everything (shell : Shell) : List (String × String) :=
  shell.entries.map fun (name, entry) => (name, entry.value)

/-- What the programs that are started see. -/
def environment (shell : Shell) : List (String × String) :=
  (shell.entries.filter fun (_, entry) => entry.exported).map fun (name, entry) =>
    (name, entry.value)

/-- Takes variables away. -/
def forget (shell : Shell) (names : List String) : Shell :=
  { shell with entries := shell.entries.filter fun (name, _) => !names.contains name }

/-- Sets a variable; one that is exported already stays so. -/
def assign (shell : Shell) (name value : String) (exported : Bool := false) : Shell :=
  let old := ((shell.entries.lookup name).map (·.exported)).getD false
  let others := (shell.forget [name]).entries
  { shell with entries := (name, ⟨value, exported || old⟩) :: others }

/-- Sets variables. -/
def assignAll (shell : Shell) (values : List (String × String)) (exported : Bool := false) :
    Shell :=
  values.foldl (fun shell (name, value) => shell.assign name value exported) shell

/-- What a complaint of the shell begins with. -/
def mark (shell : Shell) : String := shell.name ++ ": " ++ Numeral.decimal shell.line ++ ": "

/-- Complains. -/
def complain (shell : Shell) (descriptors : Descriptors) (text : String) : Action Unit :=
  say descriptors.errors (shell.mark ++ text ++ "\n")

/-- A process that the shell starts, with what its complaints begin with. -/
def process (shell : Shell) (called : String) (args : List String) (descriptors : Descriptors) :
    Process :=
  { name := called, args := args, environment := shell.environment, descriptors := descriptors }

end Shell

/-- How lists and scripts are run by what a shell is made of. -/
structure Runner where
  steps : Shell → Steps → Action (Shell × Flow)
  script : Shell → String → Action (Shell × Flow)

end ImageLaunch.Host
