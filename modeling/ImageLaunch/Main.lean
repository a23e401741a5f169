import ImageLaunch.Native

/-!
# ImageLaunch.Main

The two programs in one executable: under the name `segment-tool` it is the segment
tool, and under any other name the launcher.

A run is a function of the files it can reach.  What the arguments and the environment
name is read beforehand, and what the run has changed is written back afterwards.
-/

namespace ImageLaunch.Main

/-! ## Paths -/

/-- The paths that a launch leads to, from its command line and environment. -/
def launchPaths (lookup : Lookup) (argv : List Bytes) : List Bytes :=
  match CommandLine.parseLaunch argv with
  | .error _ => []
  | .ok arguments =>
    let arguments := Request.fillIn arguments lookup
    arguments.segment :: arguments.config.toList ++ arguments.engine.toList

/-- The paths that a command of the segment tool leads to. -/
def toolPaths (argv : List Bytes) : List Bytes :=
  match CommandLine.parseTool argv with
  | .error _ => []
  | .ok (.pack arguments) => [arguments.payload, arguments.output]
  | .ok (.inspect path) => [path]

/-- The path with the given components. -/
def pathOf (components : List Bytes) : Bytes := List.intercalate [0x2F] components

/-! ## Files on disk -/

/-- What is on disk at the given components. -/
def entryAt? (components : List Bytes) : IO (Option Entry) := do
  match Text.Utf8.decode? (pathOf components) with
  | none => return none
  | some path =>
    match ← (IO.FS.readBinFile path).toBaseIO with
    | .ok contents => return some (.file contents.toList)
    | .error (.inappropriateType _ number _) =>
      return if IoError.system number.toNat = .isDirectory then some .directory else none
    | .error _ => return none

/-- Adds what is on disk along a path. -/
def observe (files : Files) (path : Bytes) : IO Files := do
  let start := if path.head? = some 0x2F then [] else files.home
  let (files, _) ← (Path.components path).foldlM (fun (files, standing) part => do
    if part = [0x2E, 0x2E] then
      return (files, if standing.length ≤ 1 then standing else standing.dropLast)
    let standing := standing ++ [part]
    match ← entryAt? standing with
    | some entry => return (files.put standing entry, standing)
    | none => return (files, standing)) (files, start)
  return files

/-- Writes the files that are not as they were. -/
def store (before after : Files) : IO Unit :=
  after.entries.forM fun (components, entry) => do
    match entry, Text.Utf8.decode? (pathOf components) with
    | .file contents, some path =>
      unless before.entry? components = some entry do
        IO.FS.writeBinFile path (ByteArray.mk contents.toArray)
    | _, _ => return ()

/-! ## Runs -/

/-- The variables that the programs and the engines are given. -/
def environment : IO Native.Variables := do
  let names := [Request.engineVariable, Request.configVariable, "PATH", "HOME",
    "CLICOLOR_FORCE", "NO_COLOR"]
  names.filterMapM fun name => do
    return (← IO.getEnv name).map fun value => (name, Bytes.ofString value)

/-- Runs the program of a name on what is on disk. -/
def run (argv : List Bytes) : IO Report := do
  let environment ← environment
  let asTool := argv.head?.bind CommandLine.programName? = some "segment-tool"
  let paths := if asTool then toolPaths argv else launchPaths (environment.lookup ·) argv
  let home := Path.components (Bytes.ofString (toString (← IO.currentDir)))
  let files ← paths.foldlM observe { home }
  let (report, after) :=
    if asTool then Native.toolReport environment files argv
    else Native.report environment files argv
  store files after
  return report

end ImageLaunch.Main

/-- Runs the program that this executable is named after, on its arguments. -/
def main (args : List String) : IO UInt32 := do
  let called := toString (← IO.appPath)
  let report ← ImageLaunch.Main.run ((called :: args).map ImageLaunch.Bytes.ofString)
  (← IO.getStdout).write (ByteArray.mk report.output.toArray)
  (← IO.getStderr).write (ByteArray.mk report.errors.toArray)
  return UInt32.ofNat report.status
