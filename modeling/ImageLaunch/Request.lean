import ImageLaunch.CommandLine.Launch
import ImageLaunch.Config

/-!
# ImageLaunch.Request

What a launch is to do, put together from the command line, the environment and the
configuration file.

| setting | first | then | then |
|---|---|---|---|
| engine | command line | variable | configuration, with its arguments |
| configuration file | command line | variable | none |
| verbosity | flags | configuration | warnings |

An empty variable counts as unset.
-/

namespace ImageLaunch

/-- The engine to run, and the arguments that lead. -/
structure EngineCommand where
  program : Bytes
  args : List Bytes
  deriving DecidableEq, Repr

/-- What a launch is to do. -/
structure Request where
  segment : Bytes
  passthrough : List Bytes
  engine : Option EngineCommand
  verbosity : Log.Verbosity
  deriving DecidableEq, Repr

/-- The variables of an environment, by name. -/
abbrev Lookup := String → Option Bytes

namespace Request

/-- The variable that names an engine. -/
def engineVariable : String := "IMAGE_LAUNCHER_ENGINE"

/-- The variable that names a configuration file. -/
def configVariable : String := "IMAGE_LAUNCHER_CONFIG"

/-- A variable that is set and not empty. -/
def setting? (lookup : Lookup) (name : String) : Option Bytes :=
  (lookup name).filter fun value => !value.isEmpty

/-- The engine chosen: a program chosen outside the configuration gets none of its
arguments. -/
def chooseEngine (chosen : Option Bytes) (config : Config) : Option EngineCommand :=
  match chosen, config.program with
  | some program, _ => some ⟨program, []⟩
  | none, some program => some ⟨Bytes.ofString program, config.args.map Bytes.ofString⟩
  | none, none => none

/-- The request made by a command line and a configuration. -/
def ofParts (arguments : CommandLine.LaunchArguments) (config : Config) :
    Except ConfigError Request := do
  let configured ← config.verbosity
  return {
    segment := arguments.segment
    passthrough := arguments.args
    engine := chooseEngine arguments.engine config
    verbosity := Log.Verbosity.choose arguments.quiet arguments.verbose configured }

/-- The command line with the environment's answers for what it leaves open. -/
def fillIn (arguments : CommandLine.LaunchArguments) (lookup : Lookup) :
    CommandLine.LaunchArguments :=
  { arguments with
    engine := arguments.engine.or (setting? lookup engineVariable)
    config := arguments.config.or (setting? lookup configVariable) }

/-- The request made by a command line in its surroundings. -/
def resolve (arguments : CommandLine.LaunchArguments) (lookup : Lookup) (files : Files) :
    Except ConfigError Request := do
  let arguments := fillIn arguments lookup
  let config ← match arguments.config with
    | some path => Config.load files path
    | none => pure {}
  ofParts arguments config

end Request

end ImageLaunch
