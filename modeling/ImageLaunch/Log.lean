/-!
# ImageLaunch.Log

Diagnostics.  A record has a level and a text; the verbosity in force decides
which records are written: those whose level is not above it.  Quiet asks for
errors only, verbose for everything down to debugging, and otherwise the
configured verbosity counts, or warnings if none is configured.
-/

namespace ImageLaunch.Log

/-- How grave a record is, gravest first. -/
inductive Level
  | error
  | warning
  | info
  | debug
  | trace
  deriving DecidableEq, Repr

/-- How much is written. -/
inductive Verbosity
  | off
  | error
  | warn
  | info
  | debug
  | trace
  deriving DecidableEq, Repr

namespace Level

/-- The word in front of a record. -/
def label : Level → String
  | .error => "error"
  | .warning => "warning"
  | .info => "info"
  | .debug => "debug"
  | .trace => "trace"

/-- The position of a level, counted from one for the gravest. -/
def rank : Level → Nat
  | .error => 1
  | .warning => 2
  | .info => 3
  | .debug => 4
  | .trace => 5

end Level

namespace Verbosity

/-- The rank of the least grave level that is still written; zero for none. -/
def rank : Verbosity → Nat
  | .off => 0
  | .error => 1
  | .warn => 2
  | .info => 3
  | .debug => 4
  | .trace => 5

/-- Every verbosity, quietest first. -/
def all : List Verbosity := [.off, .error, .warn, .info, .debug, .trace]

/-- The verbosity writes records of this level. -/
def admits (verbosity : Verbosity) (level : Level) : Bool := level.rank ≤ verbosity.rank

/-- The name of a verbosity. -/
def name : Verbosity → String
  | .off => "OFF"
  | .error => "ERROR"
  | .warn => "WARN"
  | .info => "INFO"
  | .debug => "DEBUG"
  | .trace => "TRACE"

/-- Reads a name; ASCII letters count in either case. -/
def ofName? (text : String) : Option Verbosity :=
  all.find? fun verbosity => text.toList.map Char.toUpper = verbosity.name.toList

/-- The verbosity for a launch: the flags first, then the configuration. -/
def choose (quiet verbose : Bool) (configured : Option Verbosity) : Verbosity :=
  if quiet then .error else if verbose then .debug else configured.getD .warn

end Verbosity

/-- A diagnostic. -/
structure Record where
  level : Level
  text : String
  deriving DecidableEq, Repr

/-- The line that a record makes, line feed included. -/
def Record.line (record : Record) : String :=
  "image-launcher: " ++ record.level.label ++ ": " ++ record.text ++ "\n"

end ImageLaunch.Log
