import ImageLaunch.Files
import ImageLaunch.Log
import ImageLaunch.Text.Excerpt
import ImageLaunch.Toml.Document

/-!
# ImageLaunch.Config

The configuration file: a document with at most two tables.

| table | key | value |
|---|---|---|
| `engine` | `program` | a text |
| `engine` | `args` | an array of texts |
| `log` | `level` | a text |

All of it is optional and nothing else is allowed.  In place of a table there may
be a sequence, whose elements are the values in the order above; the first one has
to be there, and elements that are left over are ignored.  A document is read in
its own order, and the first thing out of place is the complaint.
-/

namespace ImageLaunch

/-- What a configuration file says. -/
structure Config where
  program : Option String := none
  args : List String := []
  level : Option String := none
  deriving DecidableEq, Repr

/-! ## Complaints -/

/-- What is out of place in a document. -/
inductive Misfit
  | unknownField (name : String) (known : List String)
  | wrongType (found wanted : String)
  | tooShort (wanted : String)
  deriving DecidableEq, Repr

/-- The complaint in words. -/
def Misfit.message : Misfit → String
  | .unknownField name known =>
    "unknown field `" ++ name ++ "`, expected " ++
      " or ".intercalate (known.map fun name => "`" ++ name ++ "`")
  | .wrongType found wanted => "invalid type: " ++ found ++ ", expected " ++ wanted
  | .tooShort wanted => "invalid length 0, expected " ++ wanted

/-- Something out of place, and where. -/
structure Misplaced where
  span : Toml.Span
  misfit : Misfit
  deriving DecidableEq, Repr

/-- Why a configuration cannot be used. -/
inductive ConfigError
  | read (path : Bytes) (error : IoError)
  | syntaxError (path : Bytes) (content : String) (offset : Nat)
  | shape (path : Bytes) (content : String) (misplaced : Misplaced)
  | invalidLevel (level : String)
  deriving DecidableEq, Repr

/-- The failure in words. -/
def ConfigError.message : ConfigError → String
  | .read path error => "read config " ++ Path.display path ++ ": " ++ error.message
  | .syntaxError path content offset =>
    "parse config " ++ Path.display path ++ ": " ++
      Text.excerpt "TOML parse error" content offset offset ++ "invalid syntax\n"
  | .shape path content ⟨span, misfit⟩ =>
    "parse config " ++ Path.display path ++ ": " ++
      Text.excerpt "TOML parse error" content span.start span.stop ++ misfit.message ++ "\n"
  | .invalidLevel level => "unknown log level " ++ Text.Quoted.ofString level

namespace Config

open Toml

/-! ## Values of the wanted kinds -/

/-- What a value is, for a complaint. -/
def found : Node → String
  | .scalar (.text value) _ => "string " ++ Text.Quoted.ofString value
  | .scalar (.number (.integer value)) _ =>
    "integer `" ++ Numeral.signed value ++ "`"
  | .scalar (.number (.float value)) _ => "floating point `" ++ value.text ++ "`"
  | .scalar (.boolean value) _ => "boolean `" ++ (if value then "true" else "false") ++ "`"
  | .scalar .moment _ => "map"
  | .array _ _ | .tables _ _ => "sequence"
  | .table _ _ _ => "map"

/-- A value that is not of the wanted kind; one without a place of its own is
complained about at `place`. -/
def wrongType {α : Type} (place : Span) (node : Node) (wanted : String) : Except Misplaced α :=
  .error ⟨node.span?.getD place, .wrongType (found node) wanted⟩

/-- A text. -/
def readText (wanted : String) (place : Span) : Node → Except Misplaced String
  | .scalar (.text value) _ => .ok value
  | node => wrongType place node wanted

/-- An array of texts. -/
def readTexts (place : Span) : Node → Except Misplaced (List String)
  | .array elements span | .tables elements span => elements.mapM (readText "a string" span)
  | node => wrongType place node "a sequence"

/-! ## Sections -/

/-- The kinds of section: their names and fields. -/
inductive Section
  | engine
  | log
  deriving DecidableEq, Repr

/-- The fields of a section, in order. -/
def Section.fields : Section → List String
  | .engine => ["program", "args"]
  | .log => ["level"]

/-- A section, for a complaint. -/
def Section.wanted : Section → String
  | .engine => "struct EngineSection"
  | .log => "struct LogSection"

/-- A section and the values it needs, for a complaint. -/
def Section.wantedElements : Section → String
  | .engine => "struct EngineSection with 2 elements"
  | .log => "struct LogSection with 1 element"

/-- Reads the value of a field onto a configuration. -/
def readField (config : Config) (name : String) (place : Span) (node : Node) :
    Except Misplaced Config :=
  if name = "program" then
    (readText "path string" place node).map fun value => { config with program := some value }
  else if name = "args" then
    (readTexts place node).map fun values => { config with args := values }
  else (readText "a string" place node).map fun value => { config with level := some value }

/-- Reads one entry of a section. -/
def readEntry (kind : Section) (config : Config) (entry : Key × Node) :
    Except Misplaced Config :=
  if entry.1.name ∈ kind.fields then readField config entry.1.name entry.1.span entry.2
  else .error ⟨entry.1.span, .unknownField entry.1.name kind.fields⟩

/-- Reads a section given as a sequence. -/
def readElements (kind : Section) (config : Config) (place : Span) (elements : List Node) :
    Except Misplaced Config :=
  if elements = [] then .error ⟨place, .tooShort kind.wantedElements⟩
  else (kind.fields.zip elements).foldlM
    (fun config (name, node) => readField config name place node) config

/-- The name that stands for a date's or time's single field. -/
def momentField : String := "$__toml_private_datetime"

/-- Reads a section. -/
def readSection (kind : Section) (config : Config) (place : Span) :
    Node → Except Misplaced Config
  | .table _ _ entries => entries.foldlM (readEntry kind) config
  | .array elements span | .tables elements span => readElements kind config span elements
  | .scalar .moment span => .error ⟨span, .unknownField momentField kind.fields⟩
  | node => wrongType place node kind.wanted

/-- Reads one entry of the document. -/
def readTop (config : Config) (entry : Key × Node) : Except Misplaced Config :=
  if entry.1.name = "engine" then readSection .engine config entry.1.span entry.2
  else if entry.1.name = "log" then readSection .log config entry.1.span entry.2
  else .error ⟨entry.1.span, .unknownField entry.1.name ["engine", "log"]⟩

/-- The configuration that a document makes. -/
def ofDocument (document : Entries) : Except Misplaced Config := document.foldlM readTop {}

/-! ## Files -/

/-- The configuration that a text spells; `path` is where it comes from. -/
def parse (path : Bytes) (content : String) : Except ConfigError Config :=
  match Toml.parse content with
  | .error offset => .error (.syntaxError path content offset)
  | .ok document => (ofDocument document).mapError (.shape path content)

/-- The configuration in a file. -/
def load (files : Files) (path : Bytes) : Except ConfigError Config :=
  match files.text path with
  | .error error => .error (.read path error)
  | .ok content => parse path content

/-- The verbosity that is configured, if one is. -/
def verbosity (config : Config) : Except ConfigError (Option Log.Verbosity) :=
  match config.level with
  | none => .ok none
  | some level =>
    match Log.Verbosity.ofName? level with
    | some verbosity => .ok (some verbosity)
    | none => .error (.invalidLevel level)

end Config

end ImageLaunch
