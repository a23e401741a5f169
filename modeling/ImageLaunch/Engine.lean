import ImageLaunch.Output
import ImageLaunch.Request

/-!
# ImageLaunch.Engine

What runs a loaded segment.  An engine is first asked whether it takes a request,
and then run once with the segment; it may answer differently each time, for it acts
on a world of its own.
-/

namespace ImageLaunch

/-- Why a run has no status. -/
inductive EngineError
  | notConfigured
  | spawn (program : Bytes) (error : IoError)
  | wait (error : IoError)
  | noStatus
  deriving DecidableEq, Repr

namespace EngineError

/-- The failure in words. -/
def message : EngineError → String
  | .notConfigured => "no engine configured"
  | .spawn program error => "failed to execute " ++ Path.display program ++ ": " ++ error.message
  | .wait error => "failed to wait for engine: " ++ error.message
  | .noStatus => "engine exited without a status"

/-- The failure behind it, if the system had one. -/
def cause? : EngineError → Option IoError
  | .spawn _ error | .wait error => some error
  | _ => none

end EngineError

/-- An engine for segments of a type `σ`, acting on a world `ω`. -/
structure Engine (ω σ : Type) where
  prepare : Request → ω → Reply ω (Except String Unit)
  run : σ → Request → List Bytes → ω → Reply ω (Except EngineError Int)

end ImageLaunch
