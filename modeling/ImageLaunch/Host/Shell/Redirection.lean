import ImageLaunch.Host.Shell.Expansion

/-!
# ImageLaunch.Host.Shell.Redirection

Where the commands of a script read and write instead of where their shell does.
-/

namespace ImageLaunch.Host


/-- Opens a file for writing; an old one is emptied unless `append` is set. -/
def openSink (descriptors : Descriptors) (append : Bool) (path : String) :
    Action (Except IoError Sink) := do
  match path with
  | "/dev/null" => return .ok .nothing
  | "/dev/stdout" => return .ok descriptors.output
  | "/dev/stderr" => return .ok descriptors.errors
  | _ =>
    let files := (← get).files
    let old := if append then (files.contents (bytesOf path)).toOption.getD [] else []
    match files.write (bytesOf path) old with
    | .ok files =>
      modify fun machine => { machine with files := files }
      return .ok (.file (bytesOf path))
    | .error error => return .error error

/-- Opens a file for reading. -/
def openSource (descriptors : Descriptors) (path : String) : Action (Except IoError Source) := do
  match path with
  | "/dev/null" => return .ok .nothing
  | "/dev/stdin" => return .ok descriptors.input
  | _ =>
    match (← get).files.contents (bytesOf path) with
    | .ok contents => return .ok (.slot (← newSlot contents))
    | .error error => return .error error

/-- Applies a redirection; a file that cannot be opened is a complaint. -/
def redirect (descriptors : Descriptors) (redirect : Redirect) (target : String) :
    Expanding Descriptors := do
  let refuse (verb absence : String) (error : IoError) : Expanding Descriptors :=
    throw ("cannot " ++ verb ++ " " ++ target ++ ": " ++
      if isAbsence error then absence else reason error)
  match redirect.operator with
  | "<<" => return { descriptors with input := .slot (← newSlot (bytesOf target)) }
  | "<" | "<>" =>
    match ← openSource descriptors target with
    | .ok source => return { descriptors with input := source }
    | .error error => refuse "open" "No such file" error
  | "<&" => return if target = "-" then { descriptors with input := .closed } else descriptors
  | ">&" =>
    match target.toNat? with
    | some number =>
      match descriptors.sink number with
      | .closed => throw (Numeral.decimal number ++ ": Bad file descriptor")
      | sink => return descriptors.withSink redirect.descriptor sink
    | none =>
      if target = "-" then return descriptors.withSink redirect.descriptor .closed
      else throw "Bad fd number"
  | operator =>
    match ← openSink descriptors (operator = ">>") target with
    | .ok sink => return descriptors.withSink redirect.descriptor sink
    | .error error => refuse "create" "Directory nonexistent" error

/-- Applies redirections, from left to right. -/
def redirectAll (runner : Runner) (shell : Shell) (redirects : List Redirect) :
    Expanding Descriptors :=
  redirects.foldlM (fun descriptors next => do
    redirect descriptors next (← expandText runner shell next.target).value)
    shell.descriptors

end ImageLaunch.Host
