import ImageLaunch.Launcher

/-!
# ImageLaunch.Proofs.Launch.Course

How a launch can go.  What the arguments ask for follows rules (`Plan.Asked`): whether there are
any, what the command line makes of them, and what the layers of a request come to.  After that,
whatever the source and the engine answer, the calls made in one launch are one of four lists,
and where the list ends settles the status:

| calls | status |
|---|---|
| none | 0 for a text shown, 64 for arguments or a configuration that cannot be used |
| acquire (refused) | 66 |
| acquire, prepare (refused), release | 64 |
| acquire, prepare, run, release | the engine's own, or 70 if it has none |

`Course` has one constructor for each way, and `startFrom_course` says that every launch
follows one.
-/

namespace ImageLaunch

variable {ω σ : Type}

/-! ## Calls among events -/

namespace Event

@[simp] theorem calls_nil : calls [] = [] := rfl

@[simp] theorem calls_call (call : Call) (rest : List Event) :
    calls (.call call :: rest) = call :: calls rest := rfl

@[simp] theorem calls_emit (emission : Emission) (rest : List Event) :
    calls (.emit emission :: rest) = calls rest := rfl

@[simp] theorem calls_setVerbosity (verbosity : Log.Verbosity) (rest : List Event) :
    calls (.setVerbosity verbosity :: rest) = calls rest := rfl

@[simp] theorem calls_append (events rest : List Event) :
    calls (events ++ rest) = calls events ++ calls rest := by
  induction events with
  | nil => rfl
  | cons event events ih => cases event <;> simp [ih]

/-- Emissions are no calls. -/
@[simp] theorem calls_map_emit (emissions : List Emission) :
    calls (emissions.map .emit) = [] := by
  induction emissions with
  | nil => rfl
  | cons emission rest ih => rw [List.map_cons, calls_emit, ih]

end Event

/-! ## What the arguments ask for -/

/-- The rules for what the arguments ask for.  Without arguments nothing can be done.  Help and
the version are shown where the command line asks for them, and any other problem with it makes
the arguments unusable.  Arguments that are understood ask for a launch, unless no request can be
put together from them and their surroundings. -/
inductive Plan.Asked (lookup : Lookup) (files : Files) (argv : List Bytes) :
    Except LaunchError Plan → Prop
  | noArguments (hargv : argv = []) :
      Asked lookup files argv (.error (.invalidArguments "empty argument vector"))
  | help {error : CommandLine.UsageError} {text : Text.Styled} (hargv : argv ≠ [])
      (hparse : CommandLine.parseLaunch argv = .error error) (hhelp : error.problem = .help text) :
      Asked lookup files argv (.ok (.display text))
  | version {error : CommandLine.UsageError} {text : String} (hargv : argv ≠ [])
      (hparse : CommandLine.parseLaunch argv = .error error)
      (hversion : error.problem = .version text) :
      Asked lookup files argv (.ok (.display [text]))
  | usage {error : CommandLine.UsageError} (hargv : argv ≠ [])
      (hparse : CommandLine.parseLaunch argv = .error error)
      (hhelp : ∀ text, error.problem ≠ .help text)
      (hversion : ∀ text, error.problem ≠ .version text) :
      Asked lookup files argv (.error (.invalidArguments (error.body.shown false)))
  | config {arguments : CommandLine.LaunchArguments} {error : ConfigError} (hargv : argv ≠ [])
      (hparse : CommandLine.parseLaunch argv = .ok arguments)
      (hresolve : Request.resolve arguments lookup files = .error error) :
      Asked lookup files argv (.error (.config error))
  | request {arguments : CommandLine.LaunchArguments} {request : Request} (hargv : argv ≠ [])
      (hparse : CommandLine.parseLaunch argv = .ok arguments)
      (hresolve : Request.resolve arguments lookup files = .ok request) :
      Asked lookup files argv (.ok (.launch request))

namespace Plan

variable {lookup : Lookup} {files : Files} {argv : List Bytes}

/-- The rules leave no choice. -/
theorem Asked.ofArguments_eq {plan : Except LaunchError Plan}
    (hasked : Asked lookup files argv plan) : ofArguments lookup files argv = plan := by
  cases hasked with
  | noArguments hargv => simp only [ofArguments, if_pos hargv]
  | help hargv hparse hhelp => simp only [ofArguments, if_neg hargv, hparse, hhelp]
  | version hargv hparse hversion => simp only [ofArguments, if_neg hargv, hparse, hversion]
  | usage hargv hparse hhelp hversion =>
      -- neither of the two first arms fits the problem
      simp only [ofArguments, if_neg hargv, hparse]
  | config hargv hparse hresolve => simp only [ofArguments, if_neg hargv, hparse, hresolve]
  | request hargv hparse hresolve => simp only [ofArguments, if_neg hargv, hparse, hresolve]

/-- One of the rules applies to any arguments. -/
theorem exists_asked (lookup : Lookup) (files : Files) (argv : List Bytes) :
    ∃ plan, Asked lookup files argv plan := by
  by_cases hargv : argv = []
  · exact ⟨_, .noArguments hargv⟩
  · cases hparse : CommandLine.parseLaunch argv with
    | ok arguments =>
        cases hresolve : Request.resolve arguments lookup files with
        | error error => exact ⟨_, .config hargv hparse hresolve⟩
        | ok request => exact ⟨_, .request hargv hparse hresolve⟩
    | error error =>
        by_cases hhelp : ∃ text, error.problem = .help text
        · obtain ⟨text, hhelp⟩ := hhelp
          exact ⟨_, .help hargv hparse hhelp⟩
        · by_cases hversion : ∃ text, error.problem = .version text
          · obtain ⟨text, hversion⟩ := hversion
            exact ⟨_, .version hargv hparse hversion⟩
          · exact ⟨_, .usage hargv hparse (not_exists.mp hhelp) (not_exists.mp hversion)⟩

/-- What is worked out is what the rules say. -/
theorem asked_ofArguments (lookup : Lookup) (files : Files) (argv : List Bytes) :
    Asked lookup files argv (ofArguments lookup files argv) := by
  obtain ⟨plan, hasked⟩ := exists_asked lookup files argv
  rwa [hasked.ofArguments_eq]

end Plan

/-! ## Courses -/

/-- How a launch goes: the calls made, in order, the status, and the world in the end.  What the
arguments ask for follows the rules.  Each call is answered in the world that the call before it
has left, and the segment that is run and given back is the one that was acquired. -/
inductive Course (launcher : Launcher ω σ) (start : Start) (world : ω) :
    List Call → Int → ω → Prop
  | displayed {text : Text.Styled}
      (hasked : Plan.Asked start.lookup start.files start.argv (.ok (.display text))) :
      Course launcher start world [] 0 world
  | badArguments {message : String}
      (hasked : Plan.Asked start.lookup start.files start.argv
        (.error (.invalidArguments message))) :
      Course launcher start world [] 64 world
  | badConfig {error : ConfigError}
      (hasked : Plan.Asked start.lookup start.files start.argv (.error (.config error))) :
      Course launcher start world [] 64 world
  | unavailable {request : Request} {error : Segment.AcquireError}
      (hasked : Plan.Asked start.lookup start.files start.argv (.ok (.launch request)))
      (hacquire : (launcher.source.acquire request.segment world).value = .error error) :
      Course launcher start world [.acquire request.segment false] 66
        (launcher.source.acquire request.segment world).world
  | rejected {request : Request} {segment : σ} {heard : List Emission} {acquired : ω}
      {message : String}
      (hasked : Plan.Asked start.lookup start.files start.argv (.ok (.launch request)))
      (hacquire : launcher.source.acquire request.segment world = ⟨.ok segment, heard, acquired⟩)
      (hprepare : (launcher.engine.prepare request acquired).value = .error message) :
      Course launcher start world
        [.acquire request.segment true, .prepare request false, .release] 64
        (launcher.source.release segment (launcher.engine.prepare request acquired).world).world
  | ran {request : Request} {segment : σ} {heard asked told : List Emission}
      {acquired prepared finished : ω} {status : Int}
      (hasked : Plan.Asked start.lookup start.files start.argv (.ok (.launch request)))
      (hacquire : launcher.source.acquire request.segment world = ⟨.ok segment, heard, acquired⟩)
      (hprepare : launcher.engine.prepare request acquired = ⟨.ok (), asked, prepared⟩)
      (hrun : launcher.engine.run segment request start.argv prepared =
        ⟨.ok status, told, finished⟩) :
      Course launcher start world
        [.acquire request.segment true, .prepare request true, .run request start.argv, .release]
        status (launcher.source.release segment finished).world
  | failed {request : Request} {segment : σ} {heard asked told : List Emission}
      {acquired prepared finished : ω} {error : EngineError}
      (hasked : Plan.Asked start.lookup start.files start.argv (.ok (.launch request)))
      (hacquire : launcher.source.acquire request.segment world = ⟨.ok segment, heard, acquired⟩)
      (hprepare : launcher.engine.prepare request acquired = ⟨.ok (), asked, prepared⟩)
      (hrun : launcher.engine.run segment request start.argv prepared =
        ⟨.error error, told, finished⟩) :
      Course launcher start world
        [.acquire request.segment true, .prepare request true, .run request start.argv, .release]
        70 (launcher.source.release segment finished).world

namespace Launcher

variable (launcher : Launcher ω σ)

section

variable {start : Start} {request : Request}

/-- A segment that has been acquired takes its course, and the engine is asked first. -/
theorem offerSegment_course
    (hasked : Plan.Asked start.lookup start.files start.argv (.ok (.launch request)))
    {segment : σ} {world acquired : ω} {heard : List Emission}
    (hacquire : launcher.source.acquire request.segment world = ⟨.ok segment, heard, acquired⟩) :
    Course launcher start world
      (.acquire request.segment true ::
        (launcher.offerSegment request start.argv segment acquired).calls)
      (launcher.offerSegment request start.argv segment acquired).status
      (launcher.offerSegment request start.argv segment acquired).world := by
  rcases hprepare : launcher.engine.prepare request acquired with ⟨answer, asked, prepared⟩
  cases answer with
  | error message =>
      have hcourse : Course launcher start world _ _ _ :=
        .rejected hasked hacquire (congrArg Reply.value hprepare)
      simpa [offerSegment, Launch.calls, said, hprepare, LaunchError.status,
        Status.invalidArguments] using hcourse
  | ok answer =>
      rcases hrun : launcher.engine.run segment request start.argv prepared with
        ⟨outcome, told, finished⟩
      cases outcome with
      | ok status =>
          have hcourse := Course.ran hasked hacquire hprepare hrun
          simpa [offerSegment, runSegment, Launch.calls, said, hprepare, hrun] using hcourse
      | error error =>
          have hcourse := Course.failed hasked hacquire hprepare hrun
          simpa [offerSegment, runSegment, Launch.calls, said, hprepare, hrun, Status.launchFailure]
            using hcourse

/-- A request that is carried out follows a course. -/
theorem carryOut_course
    (hasked : Plan.Asked start.lookup start.files start.argv (.ok (.launch request)))
    (world : ω) :
    Course launcher start world (launcher.carryOut request start.argv world).calls
      (launcher.carryOut request start.argv world).status
      (launcher.carryOut request start.argv world).world := by
  rcases hacquire : launcher.source.acquire request.segment world with ⟨answer, heard, acquired⟩
  cases answer with
  | error error =>
      have hcourse : Course launcher start world _ _ _ :=
        .unavailable hasked (congrArg Reply.value hacquire)
      simpa [carryOut, Launch.calls, said, hacquire, LaunchError.status, Status.imageUnavailable]
        using hcourse
  | ok segment =>
      have hcourse : Course launcher start world _ _ _ :=
        launcher.offerSegment_course hasked hacquire
      simpa [carryOut, Launch.calls, hacquire] using hcourse

end

/-- Carrying out a request asks the environment nothing. -/
theorem carryOut_withLookup (lookup : Lookup) (request : Request) (argv : List Bytes) (world : ω) :
    { launcher with lookup := lookup }.carryOut request argv world =
      launcher.carryOut request argv world := rfl

/-- **Every launch follows a course**, whatever the source and the engine answer. -/
theorem startFrom_course (start : Start) (world : ω) :
    Course launcher start world (launcher.startFrom start world).calls
      (launcher.startFrom start world).status (launcher.startFrom start world).world := by
  have hasked := Plan.asked_ofArguments start.lookup start.files start.argv
  simp only [startFrom, main, follow, carryOut_withLookup, Launch.calls, Event.calls_setVerbosity]
  cases hplan : Plan.ofArguments start.lookup start.files start.argv with
  | error error =>
      rw [hplan] at hasked
      cases error with
      | invalidArguments message => exact .badArguments hasked
      | config error => exact .badConfig hasked
      -- no rule refuses the arguments over a segment
      | imageUnavailable error => cases hasked
  | ok plan =>
      rw [hplan] at hasked
      cases plan with
      | display text => exact .displayed hasked
      | launch request => exact launcher.carryOut_course hasked world

end Launcher

end ImageLaunch
