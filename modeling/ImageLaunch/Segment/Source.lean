import ImageLaunch.Output
import ImageLaunch.Segment.Load

/-!
# ImageLaunch.Segment.Source

Where segments come from.  A source answers a path with a segment or a refusal, and
takes the segment back when it is no longer needed; it may answer differently each
time, for it acts on a world of its own.
-/

namespace ImageLaunch.Segment

/-- A source of segments of a type `σ`, acting on a world `ω`. -/
structure Source (ω σ : Type) where
  acquire : Bytes → ω → Reply ω (Except AcquireError σ)
  release : σ → ω → Reply ω Unit

/-- The diagnostic for a segment that has been loaded. -/
def loadedRecord (path : Bytes) (segment : Loaded) : Log.Record where
  level := .info
  text := "loaded " ++ Path.display path ++ " (" ++
    Numeral.decimal segment.header.size.toNat ++ " bytes, base " ++
    Numeral.hexadecimal segment.header.base.toNat ++ ", module +" ++
    Numeral.hexadecimal segment.header.moduleOffset.toNat ++ ")"

/-- The diagnostic for a segment that is given back. -/
def releasedRecord (segment : Loaded) : Log.Record where
  level := .debug
  text := "released segment at " ++ Numeral.hexadecimal segment.header.base.toNat ++ " (" ++
    Numeral.decimal segment.contents.length ++ " bytes)"

/-- Segment files. -/
def fileSource : Source Files Loaded where
  acquire path files :=
    match acquire files path with
    | .ok segment =>
      { value := .ok segment
        emissions := [.diagnostic (loadedRecord path segment)]
        world := files }
    | .error error => { value := .error error, world := files }
  release segment files :=
    { value := (), emissions := [.diagnostic (releasedRecord segment)], world := files }

/-- A segment file is loaded, or refused with a reason. -/
@[simp] theorem fileSource_acquire_value (path : Bytes) (files : Files) :
    (fileSource.acquire path files).value = acquire files path := by
  simp only [fileSource]
  cases acquire files path <;> rfl

end ImageLaunch.Segment
