import ImageLaunch.Host.Programs

/-!
# ImageLaunch.Host.Search

Where a host finds its programs.  A name with a slash is a path and leads to a program
or to nothing; any other name is looked for in the directories that a variable lists,
one after the other.  Files that a command has made are data and cannot be executed,
and directories cannot either.
-/

namespace ImageLaunch.Host

/-- The places that every host has: its upper directories, and a file with nothing in
it. -/
def places : Files :=
  let directories := ["/bin", "/dev", "/etc", "/home", "/lib", "/opt", "/proc", "/root", "/sbin",
    "/sys", "/tmp", "/usr/bin", "/usr/lib", "/usr/local/bin", "/usr/local/sbin", "/usr/sbin",
    "/var/tmp"]
  let files := directories.foldl (fun (files : Files) path => files.place (bytesOf path) .directory)
    Files.empty
  files.place (bytesOf "/dev/null") (.file [])

/-- The directories that programs are in. -/
def programDirectories : List (List String) := [["bin"], ["usr", "bin"]]

/-- The program that a path names, if it is one. -/
def installed? (path : String) : Option String :=
  let parts := (path.splitOn "/").filter fun part => part ≠ "" && part ≠ "."
  match parts.getLast? with
  | some name =>
    if path.startsWith "/" && !path.endsWith "/" && !path.endsWith "/." &&
        programDirectories.contains parts.dropLast && (name = "sh" || (program? name).isSome) then
      some name
    else none
  | none => none

/-- The program at a path, or why nothing there can be executed. -/
def execute? (files : Files) (path : String) : Except IoError String :=
  match installed? path with
  | some name => .ok name
  | none =>
    match files.opened (bytesOf path) with
    | .ok _ => .error .denied
    | .error error => .error error

/-- The directories that are listed where no variable lists any. -/
def usualPath : String := "/usr/local/sbin:/usr/local/bin:/usr/sbin:/usr/bin:/sbin:/bin"

/-- The paths that a name stands for: in each listed directory, and in the working
directory where the list has an empty entry. -/
def candidates (environment : List (String × String)) (name : String) : List String :=
  (((environment.lookup "PATH").getD usualPath).splitOn ":").map fun directory =>
    if directory = "" then name else directory ++ "/" ++ name

/-- The directories are at fault, and there is no telling about the next one. -/
def isAbsence (error : IoError) : Bool := error = .notFound || error = .notDirectory

/-- The first program among some paths.  If there is none, a refusal of permission is
told before the last absence, and any other failure ends the search. -/
def firstProgram (files : Files) (last : IoError) : List String → Except IoError String
  | [] => .error last
  | path :: rest =>
    match execute? files path with
    | .ok name => .ok name
    | .error error =>
      if error = .denied then firstProgram files .denied rest
      else if isAbsence error then
        firstProgram files (if last = .denied then .denied else error) rest
      else .error error

/-- The program that a name or a path stands for, or why there is none. -/
def findProgram (files : Files) (environment : List (String × String)) (name : String) :
    Except IoError String :=
  if name = "" then .error .notFound
  else if name.contains '/' then execute? files name
  else if Files.nameLimit < name.length then .error .nameTooLong
  else firstProgram files .notFound (candidates environment name)

end ImageLaunch.Host
