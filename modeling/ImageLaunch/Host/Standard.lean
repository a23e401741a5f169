import ImageLaunch.Engine.Handoff
import ImageLaunch.Host.Shell

/-!
# ImageLaunch.Host.Standard

A host with a shell and a few programs, which it finds as `Host.Search` says.
-/

namespace ImageLaunch.Host

/-- Runs a program of the host to its end. -/
def runProgram (name : String) (process : Process) : Action Flow :=
  match program? name with
  | some program => do return .exit (← program process)
  | none => sh process

/-- How a process that has been left has ended. -/
def endingOf : Flow → Ending
  | .killed signal => .signalled signal
  | flow => .exited (flow.status 0)

/-- The most bytes that one argument may have. -/
def argumentLimit : Nat := 131071

/-- The host itself, whose processes start with some variables.  What cannot be handed to
the system is refused first, then a program that cannot be found, and then an argument
that is too long. -/
def standard (environment : List (String × Bytes)) : Host Files := fun invocation files =>
  let inherited := environment.map fun (name, value) => (name, wordOf value)
  if !invocation.speakable then (.error .nulInArgument, files)
  else match findProgram files inherited (wordOf invocation.program) with
    | .error error => (.error error, files)
    | .ok name =>
      if invocation.args.any fun word => argumentLimit < word.length then
        (.error .argumentsTooLong, files)
      else
        let process : Process := {
          name := wordOf invocation.program
          args := invocation.args.map wordOf
          environment := invocation.added ++ inherited
          descriptors := {} }
        let (flow, machine) := runProgram name process
          { files := files, unread := invocation.input }
        let finished : Finished := {
          output := machine.written.reverse
          delivery := Engine.delivered invocation.input.length machine.taken
          ending := .ok (endingOf flow) }
        (.ok finished, machine.files)

end ImageLaunch.Host
