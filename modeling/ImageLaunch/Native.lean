import ImageLaunch.Engine.Command
import ImageLaunch.Launcher
import ImageLaunch.Host.Standard
import ImageLaunch.Tool

/-!
# ImageLaunch.Native

The two programs as they stand on a host: segments come from files, and engines are
programs of the host.
-/

namespace ImageLaunch.Native

/-- The variables that a process is started with. -/
abbrev Variables := List (String × Bytes)

/-- Colours are forced on: the one variable for it has a value other than `0`, and the
other one, against colours, has none.  Without force there are none, since nothing is
written to a terminal. -/
def wantsColours (environment : Variables) : Bool :=
  (environment.lookup "CLICOLOR_FORCE").any (· ≠ Bytes.ofString "0") &&
    (environment.lookup "NO_COLOR").all (·.isEmpty)

/-- The launcher that finds its settings by a look-up and starts engines in an environment. -/
def launcherWith (lookup : Lookup) (environment : Variables) :
    Launcher Files Segment.Loaded where
  source := Segment.fileSource
  engine := Engine.command (Host.standard environment)
  lookup := lookup
  coloured := wantsColours environment

/-- The launcher as it stands in an environment. -/
def launcher (environment : Variables) : Launcher Files Segment.Loaded :=
  launcherWith (fun name => environment.lookup name) environment

/-- A status as the system keeps it: its last eight bits. -/
def exitCode (status : Int) : Nat := (status % 256).toNat

/-- The launcher as a program. -/
def report (environment : Variables) (files : Files) (argv : List Bytes) : Report × Files :=
  let launch := (launcher environment).main files argv files
  ({ status := exitCode launch.status
     output := launch.stream .off .output
     errors := launch.stream .off .errors }, launch.world)

/-- The segment tool as a program. -/
def toolReport (environment : Variables) (files : Files) (argv : List Bytes) : Report × Files :=
  Tool.report files argv (wantsColours environment)

end ImageLaunch.Native
