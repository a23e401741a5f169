import ImageLaunch.Bytes
import ImageLaunch.Log

/-!
# ImageLaunch.Output

What a program lets be seen: bytes on one of its two streams, and diagnostics,
which reach the error stream if the verbosity in force admits them.
-/

namespace ImageLaunch

/-- An output stream. -/
inductive Stream
  | output
  | errors
  deriving DecidableEq, Repr

/-- One thing that a program lets be seen. -/
inductive Emission
  | diagnostic (record : Log.Record)
  | output (stream : Stream) (bytes : Bytes)
  deriving DecidableEq, Repr

/-- What an emission puts on a stream while a verbosity is in force. -/
def Emission.on (stream : Stream) (verbosity : Log.Verbosity) : Emission → Bytes
  | .diagnostic record =>
    if stream = .errors ∧ verbosity.admits record.level then Bytes.ofString record.line else []
  | .output target bytes => if target = stream then bytes else []

/-- The answer of something that acts on a world `ω`: a value, what was let be seen
meanwhile, and the world afterwards. -/
structure Reply (ω α : Type) where
  value : α
  emissions : List Emission := []
  world : ω

/-- What a program leaves behind: its exit code and what it wrote. -/
structure Report where
  status : Nat
  output : Bytes := []
  errors : Bytes := []
  deriving DecidableEq, Repr

end ImageLaunch
