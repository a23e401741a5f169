import ImageLaunch.Bytes
import ImageLaunch.Files.IoError
import ImageLaunch.Text.Utf8

/-!
# ImageLaunch.Files

The files a command can reach: a finite set of entries, each known by the components
of its path, an empty one in front for the root.  Paths are byte strings and are
followed the way the system follows them: one that does not start with a slash starts
in the working directory, empty components and `.` stay where they are, `..` goes up,
every component but the last has to be a directory, and a trailing slash asks for a
directory.

Where the working directory stands below the root may be left open; it is then a
place of its own, and nothing is known to exist above it.

* `Files.opened` — what a path opens to;
* `Files.contents` — the bytes of a file;
* `Files.text` — the same as UTF-8;
* `Files.write` — the files after a whole file has been replaced;
* `Files.place` — the files with one entry more, whatever was there.
-/

namespace ImageLaunch

/-- The way a path reads in a message. -/
def Path.display (path : Bytes) : String := Text.Utf8.lossy path

/-- A file with its bytes, or a directory. -/
inductive Entry
  | file (contents : Bytes)
  | directory
  deriving DecidableEq, Repr

/-- The components of a path. -/
def Path.components (path : Bytes) : List Bytes :=
  (if path.head? = some 0x2F then [[]] else []) ++
    (Bytes.splitOn 0x2F path).filter fun part => part ≠ [] ∧ part ≠ [0x2E]

/-- The entries there are.  Of two entries with the same components the first
counts. -/
structure Files where
  entries : List (List Bytes × Entry) := []
  /-- The components of the working directory. -/
  home : List Bytes := []
  deriving DecidableEq, Repr

namespace Files

/-- No files at all. -/
def empty : Files := {}

/-- The entry at the given components; the working directory and the root are
directories. -/
def entry? (files : Files) (components : List Bytes) : Option Entry :=
  if components = files.home ∨ components = [[]] then some .directory
  else files.entries.lookup components

/-- Puts an entry in place, over any entry already there. -/
def put (files : Files) (components : List Bytes) (entry : Entry) : Files :=
  { files with entries := (components, entry) :: files.entries.filter (·.1 ≠ components) }

/-- Takes an entry away. -/
def drop (files : Files) (components : List Bytes) : Files :=
  { files with entries := files.entries.filter (·.1 ≠ components) }

/-! ## Following a path -/

/-- Where a path has led so far: a known directory, or somewhere outside, of which
nothing is known. -/
inductive Standing
  | inside (components : List Bytes)
  | outside

/-- The longest name of one component, and of a whole path. -/
def nameLimit : Nat := 255

/-- A path of this many bytes is refused. -/
def pathLimit : Nat := 4096

/-- What a name means where we stand. -/
def named? (files : Files) : Standing → Bytes → Except IoError (Option Entry)
  | standing, name =>
    if nameLimit < name.length then .error .nameTooLong
    else match standing with
      | .inside components => .ok (files.entry? (components ++ [name]))
      | .outside => .ok none

/-- Goes into one component that is not the last. -/
def enter (files : Files) (standing : Standing) (name : Bytes) : Except IoError Standing :=
  if name = [0x2E] then .ok standing
  else if name = [0x2E, 0x2E] then
    match standing with
    | .inside [] => .ok .outside
    | .inside [[]] => .ok (.inside [[]])
    | .inside components => .ok (.inside components.dropLast)
    | .outside => .ok .outside
  else do
    match standing, ← files.named? standing name with
    | .inside components, some .directory => .ok (.inside (components ++ [name]))
    | _, some _ => .error .notDirectory
    | _, none => .error .notFound

/-- Where a path leads before its last name, that name unless the path ends in dots or
names nothing, and whether a slash follows it. -/
structure Trail where
  standing : Standing
  name : Option Bytes
  slash : Bool

/-- Follows the components that are left, up to the last. -/
def follow (files : Files) (slash : Bool) : Standing → List Bytes → Except IoError Trail
  | standing, [] => .ok ⟨standing, none, slash⟩
  | standing, [name] =>
    .ok ⟨standing, if name = [0x2E] ∨ name = [0x2E, 0x2E] then none else some name, slash⟩
  | standing, name :: rest => do files.follow slash (← files.enter standing name) rest

/-- Follows a whole path up to its last name. -/
def trail (files : Files) (path : Bytes) : Except IoError Trail :=
  if path.contains 0 then .error .nulInPath
  else if path = [] then .error .notFound
  else if pathLimit ≤ path.length then .error .nameTooLong
  else
    let start := if path.head? = some 0x2F then [[]] else files.home
    files.follow (path.getLast? = some 0x2F) (.inside start)
      ((Bytes.splitOn 0x2F path).filter (· ≠ []))

/-- What a path ends in: a directory reached by dots, or a name in a directory with the
entry that is there, or a name where nothing is known. -/
inductive Target
  | directory
  | named (components : List Bytes) (entry : Option Entry)
  | missing

/-- What a trail ends in. -/
def target (files : Files) (trail : Trail) : Except IoError Target :=
  match trail.name with
  | none => .ok .directory
  | some name => do
    match trail.standing, ← files.named? trail.standing name with
    | .inside components, entry => .ok (.named (components ++ [name]) entry)
    | .outside, _ => .ok .missing

/-- Follows a whole path; the flag tells whether it ends in a slash. -/
def locate (files : Files) (path : Bytes) : Except IoError (Target × Bool) := do
  let trail ← files.trail path
  .ok (← files.target trail, trail.slash)

/-! ## Reading and writing -/

/-- Opens a path for reading. -/
def opened (files : Files) (path : Bytes) : Except IoError Entry := do
  match ← files.locate path with
  | (.directory, _) => .ok .directory
  | (.named _ (some (.file contents)), slash) =>
    if slash then .error .notDirectory else .ok (.file contents)
  | (.named _ (some .directory), _) => .ok .directory
  | (.named _ none, _) => .error .notFound
  | (.missing, _) => .error .notFound

/-- All bytes of a file. -/
def contents (files : Files) (path : Bytes) : Except IoError Bytes := do
  match ← files.opened path with
  | .file contents => .ok contents
  | .directory => .error .isDirectory

/-- A file as text. -/
def text (files : Files) (path : Bytes) : Except IoError String := do
  match Text.Utf8.decode? (← files.contents path) with
  | some text => .ok text
  | none => .error .notText

/-- Replaces a whole file, making it if needed.  Either the path cannot be
opened and nothing changes, or the file holds exactly the given bytes.  A slash at the
end asks for a directory, whatever the name in front of it. -/
def write (files : Files) (path contents : Bytes) : Except IoError Files := do
  let trail ← files.trail path
  if trail.slash then .error .isDirectory
  else
    match ← files.target trail with
    | .directory | .named _ (some .directory) => .error .isDirectory
    | .named components _ => .ok (files.put components (.file contents))
    | .missing => .error .notFound

/-- Puts an entry at a path, with the directories above it. -/
def place (files : Files) (path : Bytes) (entry : Entry) : Files :=
  let components := (if path.head? = some 0x2F then [] else files.home) ++ Path.components path
  let above := (List.range components.length).foldl (fun files depth =>
    let above := components.take depth
    if (files.entry? above).isNone then files.put above .directory else files) files
  above.put components entry

/-- Removes a file. -/
def remove (files : Files) (path : Bytes) : Except IoError Files := do
  match ← files.locate path with
  | (.named components (some (.file _)), false) => .ok (files.drop components)
  | (.named _ (some (.file _)), true) => .error .notDirectory
  | (.named _ none, _) => .error .notFound
  | (.missing, _) => .error .notFound
  | _ => .error .isDirectory

end Files

end ImageLaunch
