import ImageLaunch.Output
import ImageLaunch.Request

/-!
# ImageLaunch.Engine.Child

Child processes as a launcher sees them: how one is started, and what is known of it
when it is gone.
-/

namespace ImageLaunch

/-- A program to start, with its arguments, the variables that are added to its
environment, and what it finds on its input. -/
structure Invocation where
  program : Bytes
  args : List Bytes
  added : List (String × String)
  input : Bytes
  deriving DecidableEq, Repr

/-- How a child ended. -/
inductive Ending
  | exited (code : Int)
  | signalled (signal : Nat)
  | unknown
  deriving DecidableEq, Repr

/-- How the input went out. -/
inductive Delivery
  | whole
  /-- The child closed its input before all of it was written. -/
  | cutShort
  | failed (error : IoError)
  deriving DecidableEq, Repr

/-- A child that has been started and waited for. -/
structure Finished where
  output : List (Stream × Bytes)
  delivery : Delivery
  ending : Except IoError Ending

/-- A system that starts programs, acting on a world `ω`. -/
abbrev Host (ω : Type) := Invocation → ω → Except IoError Finished × ω

namespace Invocation

/-- A word of a command as it is shown by a way of quoting; one with a NUL byte cannot be
handed to the system and is not shown. -/
def shownWord (quote : Bytes → String) (word : Bytes) : String :=
  if word.contains 0 then Text.Quoted.ofString "<string-with-nul>" else quote word

/-- An added variable as it is shown. -/
def shownVariable (entry : String × String) : String :=
  entry.1 ++ "=" ++ Text.Quoted.ofString entry.2

/-- The command in one line: the added variables, sorted by name, the program and the
arguments. -/
def shown (invocation : Invocation) : String :=
  let sorted := invocation.added.mergeSort fun a b => a.1 ≤ b.1
  " ".intercalate (sorted.map shownVariable ++
    shownWord Text.Quoted.ofName invocation.program ::
    invocation.args.map (shownWord Text.Quoted.ofBytes))

/-- Every word can be handed to the system. -/
def speakable (invocation : Invocation) : Bool :=
  !(invocation.program :: invocation.args).any fun word => word.contains 0

end Invocation

end ImageLaunch
