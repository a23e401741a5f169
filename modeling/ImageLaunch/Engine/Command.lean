import ImageLaunch.Engine
import ImageLaunch.Engine.Child
import ImageLaunch.Segment.Load

/-!
# ImageLaunch.Engine.Command

The engine that is a program of its own.  The program gets its own leading arguments,
the segment's path and the arguments passed through; the segment's bytes are its
input, and four variables say where the segment is to be mapped.  Its exit code is the
status of the run; a signal counts as 128 more than its number.
-/

namespace ImageLaunch.Engine

/-- The refusal of a request without an engine. -/
def unconfigured : String :=
  "no engine configured (use --engine, IMAGE_LAUNCHER_ENGINE or [engine] program)"

/-- Where a segment is to be mapped, as variables. -/
def geometry (header : Segment.Header) : List (String × String) := [
  ("IMAGE_SEGMENT_BASE", Numeral.hexadecimal header.base.toNat),
  ("IMAGE_SEGMENT_SIZE", Numeral.hexadecimal header.size.toNat),
  ("IMAGE_SEGMENT_RESERVED", Numeral.hexadecimal header.reservation.toNat),
  ("IMAGE_SEGMENT_MODULE", Numeral.hexadecimal header.moduleAddress.toNat)]

/-- The child that runs a segment. -/
def invocation (command : EngineCommand) (request : Request) (segment : Segment.Loaded) :
    Invocation where
  program := command.program
  args := command.args ++ request.segment :: request.passthrough
  added := geometry segment.header
  input := segment.contents

/-- What there is to say about the way the input went out. -/
def deliveryRecords : Delivery → List Log.Record
  | .whole => []
  | .cutShort => [⟨.debug, "engine closed stdin before reading the whole segment"⟩]
  | .failed error => [⟨.warning, "failed to hand segment to engine: " ++ error.message⟩]

/-- The status that an ending makes, and what there is to say about it. -/
def statusOf : Except IoError Ending → Except EngineError Int × List Log.Record
  | .error error => (.error (.wait error), [])
  | .ok (.exited code) => (.ok code, [])
  | .ok (.signalled signal) =>
    (.ok (128 + signal), [⟨.warning, "engine terminated by signal " ++ Numeral.decimal signal⟩])
  | .ok .unknown => (.error .noStatus, [])

/-- The engine that starts programs on a host. -/
def command {ω : Type} (host : Host ω) : Engine ω Segment.Loaded where
  prepare request world :=
    { value := if request.engine.isNone then .error unconfigured else .ok (), world := world }
  run segment request _ world :=
    match request.engine with
    | none => { value := .error .notConfigured, world := world }
    | some command =>
      let invocation := invocation command request segment
      let announced := Emission.diagnostic ⟨.debug, "handing off to " ++ invocation.shown⟩
      match host invocation world with
      | (.error error, world) =>
        { value := .error (.spawn command.program error), emissions := [announced], world := world }
      | (.ok finished, world) =>
        let (value, remarks) := statusOf finished.ending
        { value := value
          emissions := announced ::
            finished.output.map (fun (stream, bytes) => .output stream bytes) ++
            (deliveryRecords finished.delivery ++ remarks).map .diagnostic
          world := world }

end ImageLaunch.Engine
