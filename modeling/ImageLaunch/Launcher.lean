import ImageLaunch.Engine
import ImageLaunch.Segment.Source

/-!
# ImageLaunch.Launcher

A launch from its arguments to its status: the request is put together, the segment
acquired, the engine asked and run, and the segment given back, whatever happens in
between.

| how it ends | status |
|---|---|
| help or version shown | 0 |
| no arguments, or unusable arguments or configuration | 64 |
| no segment to be had | 66 |
| refused by the engine | 64 |
| run | the engine's own, or 70 if it has none |

`Launch.events` tells in order what was called, what was let be seen, and when the
verbosity changed.  Verbosity outlives a launch, so what reaches a stream depends on the
one in force before; every launch begins by setting its own.
-/

namespace ImageLaunch

/-! ## Statuses of the launcher's own -/

namespace Status

/-- Everything asked for has been shown. -/
def success : Int := 0

/-- The arguments or the configuration cannot be used. -/
def invalidArguments : Int := 64

/-- There is no segment. -/
def imageUnavailable : Int := 66

/-- The engine could not be run. -/
def launchFailure : Int := 70

end Status

/-- Why there was no launch. -/
inductive LaunchError
  | invalidArguments (message : String)
  | config (error : ConfigError)
  | imageUnavailable (error : Segment.AcquireError)
  deriving DecidableEq, Repr

namespace LaunchError

/-- The status for a launch that did not come to be. -/
def status : LaunchError → Int
  | .invalidArguments _ | .config _ => Status.invalidArguments
  | .imageUnavailable _ => Status.imageUnavailable

/-- The failure in words. -/
def message : LaunchError → String
  | .invalidArguments message => message
  | .config error => error.message
  | .imageUnavailable error => error.message

end LaunchError

/-- A call to the source or the engine, with its outcome where that decides. -/
inductive Call
  | acquire (path : Bytes) (succeeded : Bool)
  | prepare (request : Request) (accepted : Bool)
  | run (request : Request) (argv : List Bytes)
  | release
  deriving DecidableEq, Repr

/-- One thing that happens during a launch. -/
inductive Event
  | call (call : Call)
  | emit (emission : Emission)
  /-- From here on another verbosity is in force. -/
  | setVerbosity (verbosity : Log.Verbosity)
  deriving DecidableEq, Repr

namespace Event

/-- The calls among some events, in order. -/
def calls : List Event → List Call
  | [] => []
  | .call made :: rest => made :: calls rest
  | _ :: rest => calls rest

/-- The diagnostics among some events, in order. -/
def records : List Event → List Log.Record
  | [] => []
  | .emit (.diagnostic record) :: rest => record :: records rest
  | _ :: rest => records rest

/-- The verbosity in force after some events. -/
def verbosityAfter (before : Log.Verbosity) : List Event → Log.Verbosity
  | [] => before
  | .setVerbosity verbosity :: rest => verbosityAfter verbosity rest
  | _ :: rest => verbosityAfter before rest

/-- The emissions among some events, each with the verbosity in force. -/
def emissions (before : Log.Verbosity) : List Event → List (Log.Verbosity × Emission)
  | [] => []
  | .setVerbosity verbosity :: rest => emissions verbosity rest
  | .emit emission :: rest => (before, emission) :: emissions before rest
  | .call _ :: rest => emissions before rest

end Event

/-- A launch that is over. -/
structure Launch (ω : Type) where
  status : Int
  events : List Event
  world : ω

namespace Launch

variable {ω : Type}

/-- The calls that were made, in order. -/
def calls (launch : Launch ω) : List Call := Event.calls launch.events

/-- The diagnostics that were made, in order. -/
def records (launch : Launch ω) : List Log.Record := Event.records launch.events

/-- The verbosity in force afterwards, by the one before. -/
def verbosity (launch : Launch ω) (before : Log.Verbosity) : Log.Verbosity :=
  Event.verbosityAfter before launch.events

/-- The diagnostics that were written, by the verbosity before. -/
def written (launch : Launch ω) (before : Log.Verbosity) : List Log.Record :=
  (Event.emissions before launch.events).filterMap fun
    | (verbosity, .diagnostic record) => if verbosity.admits record.level then some record else none
    | _ => none

/-- What came out on a stream, by the verbosity before. -/
def stream (launch : Launch ω) (before : Log.Verbosity) (stream : Stream) : Bytes :=
  (Event.emissions before launch.events).flatMap fun (verbosity, emission) =>
    emission.on stream verbosity

end Launch

/-- What the arguments ask for. -/
inductive Plan
  | display (text : Text.Styled)
  | launch (request : Request)
  deriving DecidableEq, Repr

/-- Works out what the arguments ask for. -/
def Plan.ofArguments (lookup : Lookup) (files : Files) (argv : List Bytes) :
    Except LaunchError Plan :=
  if argv = [] then .error (.invalidArguments "empty argument vector")
  else match CommandLine.parseLaunch argv with
    | .error error =>
      match error.problem with
      | .help text => .ok (.display text)
      | .version text => .ok (.display [text])
      | _ => .error (.invalidArguments (error.body.shown false))
    | .ok arguments =>
      match Request.resolve arguments lookup files with
      | .error error => .error (.config error)
      | .ok request => .ok (.launch request)

/-- A launcher: where segments come from, what runs them, the environment, and whether
help is shown in colours. -/
structure Launcher (ω σ : Type) where
  source : Segment.Source ω σ
  engine : Engine ω σ
  lookup : Lookup
  coloured : Bool := false

/-- The arguments of one launch, with the environment and the files as they stand when it
begins. -/
structure Start where
  argv : List Bytes
  lookup : Lookup
  files : Files

namespace Launcher

variable {ω σ : Type}

/-- The verbosity until a request says otherwise. -/
def initialVerbosity : Log.Verbosity := .warn

/-- A diagnostic as an event. -/
def said (level : Log.Level) (text : String) : Event := .emit (.diagnostic ⟨level, text⟩)

/-- Runs the engine on a segment and gives the segment back. -/
def runSegment (launcher : Launcher ω σ) (request : Request) (argv : List Bytes) (segment : σ)
    (world : ω) : Launch ω :=
  let ran := launcher.engine.run segment request argv world
  let released := launcher.source.release segment ran.world
  let (status, failure) := match ran.value with
    | .ok status => (status, [])
    | .error error => (Status.launchFailure, [said .error error.message])
  { status := status
    events :=
      said .debug ("launching " ++ Path.display request.segment ++ " with " ++
        Numeral.decimal argv.length ++ " argument(s)") ::
      .call (.run request argv) :: ran.emissions.map .emit ++ failure ++
      .call .release :: released.emissions.map .emit ++
      [said .debug ("engine finished with status " ++ Numeral.signed status)]
    world := released.world }

/-- Asks the engine about a request, and gives the segment back if it refuses. -/
def offerSegment (launcher : Launcher ω σ) (request : Request) (argv : List Bytes) (segment : σ)
    (world : ω) : Launch ω :=
  let prepared := launcher.engine.prepare request world
  match prepared.value with
  | .error message =>
    let released := launcher.source.release segment prepared.world
    let error := LaunchError.invalidArguments message
    { status := error.status
      events :=
        .call (.prepare request false) :: prepared.emissions.map .emit ++
        .call .release :: released.emissions.map .emit ++ [said .error error.message]
      world := released.world }
  | .ok () =>
    let launch := launcher.runSegment request argv segment prepared.world
    { launch with
      events := .call (.prepare request true) :: prepared.emissions.map .emit ++ launch.events }

/-- Carries out a request. -/
def carryOut (launcher : Launcher ω σ) (request : Request) (argv : List Bytes) (world : ω) :
    Launch ω :=
  let acquired := launcher.source.acquire request.segment world
  match acquired.value with
  | .error error =>
    let error := LaunchError.imageUnavailable error
    { status := error.status
      events :=
        .call (.acquire request.segment false) :: acquired.emissions.map .emit ++
        [said .error error.message]
      world := acquired.world }
  | .ok segment =>
    let launch := launcher.offerSegment request argv segment acquired.world
    { launch with
      events :=
        .call (.acquire request.segment true) :: acquired.emissions.map .emit ++ launch.events }

/-- Does what the arguments ask for. -/
def follow (launcher : Launcher ω σ) (files : Files) (argv : List Bytes) (world : ω) : Launch ω :=
  match Plan.ofArguments launcher.lookup files argv with
  | .error error =>
    { status := error.status, events := [said .error error.message], world := world }
  | .ok (.display text) =>
    { status := Status.success
      events := [.emit (.output .output (Bytes.ofString (text.shown launcher.coloured)))]
      world := world }
  | .ok (.launch request) =>
    let launch := launcher.carryOut request argv world
    { launch with events := .setVerbosity request.verbosity :: launch.events }

/-- Launches with the given arguments, the program's own name first. -/
def main (launcher : Launcher ω σ) (files : Files) (argv : List Bytes) (world : ω) : Launch ω :=
  let launch := launcher.follow files argv world
  { launch with events := .setVerbosity initialVerbosity :: launch.events }

/-- Launches from a start. -/
def startFrom (launcher : Launcher ω σ) (start : Start) (world : ω) : Launch ω :=
  { launcher with lookup := start.lookup }.main start.files start.argv world

/-- Launches one after the other: the launches, and the world at the end. -/
def startAll (launcher : Launcher ω σ) : List Start → ω → List (Launch ω) × ω
  | [], world => ([], world)
  | start :: rest, world =>
    let launch := launcher.startFrom start world
    let (launches, world) := launcher.startAll rest launch.world
    (launch :: launches, world)

end Launcher

end ImageLaunch
