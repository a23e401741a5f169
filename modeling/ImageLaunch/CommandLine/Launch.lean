import ImageLaunch.CommandLine.Matching

/-!
# ImageLaunch.CommandLine.Launch

The launcher's command line: an engine, a configuration file, two flags for the
verbosity that exclude each other, the segment, and arguments for the engine that
are handed on untouched.
-/

namespace ImageLaunch.CommandLine

/-- One setting of the launcher's command line. -/
inductive LaunchSetting
  | engine (program : Bytes)
  | config (path : Bytes)
  | quiet
  | verbose
  | segment (path : Bytes)
  deriving DecidableEq, Repr

namespace LaunchSetting

/-- The engine, if the setting names one. -/
def engine? : LaunchSetting → Option Bytes
  | .engine program => some program
  | _ => none

/-- The configuration file, if the setting names one. -/
def config? : LaunchSetting → Option Bytes
  | .config path => some path
  | _ => none

/-- The segment, if the setting names it. -/
def segment? : LaunchSetting → Option Bytes
  | .segment path => some path
  | _ => none

end LaunchSetting

/-- What a launcher's command line says. -/
structure LaunchArguments where
  engine : Option Bytes
  config : Option Bytes
  quiet : Bool
  verbose : Bool
  segment : Bytes
  args : List Bytes
  deriving DecidableEq, Repr

/-! ## What is accepted -/

/-- The engine to run. -/
def engineOption : OptionSpec LaunchSetting where
  long := "engine"
  short := some 'e'
  about := "Engine executable that runs the loaded segment [env: IMAGE_LAUNCHER_ENGINE]"
  effect := .value "PROGRAM" fun value => (nonEmpty value).map .engine

/-- The configuration file. -/
def configOption : OptionSpec LaunchSetting where
  long := "config"
  short := some 'c'
  about := "TOML configuration file [env: IMAGE_LAUNCHER_CONFIG]"
  effect := .value "FILE" fun value => (nonEmpty value).map .config

/-- Errors only. -/
def quietOption : OptionSpec LaunchSetting where
  long := "quiet"
  short := some 'q'
  about := "Only report errors"
  effect := .set .quiet

/-- Every step. -/
def verboseOption : OptionSpec LaunchSetting where
  long := "verbose"
  short := some 'v'
  about := "Report every bootstrap step"
  effect := .set .verbose

/-- The version. -/
def versionOption : OptionSpec LaunchSetting where
  long := "version"
  short := some 'V'
  about := "Print version"
  effect := .version

/-- The segment to load. -/
def segmentOperand : OperandSpec LaunchSetting where
  name := "SEGMENT"
  about := "Kernel image segment to load"
  read value := (nonEmpty value).map .segment

/-- The launcher's command. -/
def launchCommand : Command LaunchSetting where
  about := "Load a kernel image segment and hand it to an execution engine"
  version := "image-launcher 0.1.0\n"
  options :=
    [engineOption, configOption, quietOption, verboseOption, helpOption, versionOption]
  operand := some segmentOperand
  trailing := some { name := "ARGS", about := "Arguments handed to the engine untouched" }
  conflicts := [("quiet", "verbose")]

/-! ## Reading the command line -/

/-- Puts the settings in their places. -/
def LaunchArguments.ofMatches (found : Matches LaunchSetting) : LaunchArguments where
  engine := found.settings.findSome? LaunchSetting.engine?
  config := found.settings.findSome? LaunchSetting.config?
  quiet := found.settings.contains .quiet
  verbose := found.settings.contains .verbose
  segment := (found.settings.findSome? LaunchSetting.segment?).getD []
  args := found.trailing

/-- Reads the launcher's command line, the program's own name first. -/
def parseLaunch (argv : List Bytes) : Except UsageError LaunchArguments :=
  let name := (argv.head?.bind programName?).getD "image-launcher"
  (launchCommand.parse name argv.tail).map LaunchArguments.ofMatches

end ImageLaunch.CommandLine
