import ImageLaunch.Engine.Command
import ImageLaunch.Proofs.Launch.Lockstep
import ImageLaunch.Proofs.Launch.Verbosity

/-!
# ImageLaunch.Proofs.Launch.Independence

Launches one after the other, with a source and an engine that answer by what they are called
with alone (`Launcher.Steady`).  What is left of the earlier launches is a world and a verbosity,
and a launch notices neither: it goes as it would have gone first (`startFrom_independent`).

The world may change, as long as the calls find nothing in it that matters; `worlds` are those in
which they do not.
-/

namespace ImageLaunch

variable {ω σ : Type}

/-! ## Launchers that answer alike in different worlds -/

/-- In certain worlds the source and the engine answer by what they are called with alone, and
no call leads out of these worlds. -/
def Launcher.Steady (launcher : Launcher ω σ) (worlds : ω → Prop) : Prop :=
  ∀ argv request, launcher.Alike (fun world other => worlds world ∧ worlds other) launcher argv
    request request

/-- So it is with segment files and programs, in files that the programs leave as they are. -/
theorem Launcher.steady_of_programs {host : Host Files} {files : Files}
    (hhost : ∀ invocation, (host invocation files).2 = files) (lookup : Lookup) (coloured : Bool) :
    Launcher.Steady ⟨Segment.fileSource, Engine.command host, lookup, coloured⟩ (· = files) := by
  intro argv request
  have hsame (invocation : Invocation) : ∃ answer,
      host invocation files = (answer, files) ∧ host invocation files = (answer, files) :=
    ⟨(host invocation files).1, Prod.ext rfl (hhost invocation), Prod.ext rfl (hhost invocation)⟩
  exact alike_of_programs request rfl hsame lookup lookup coloured coloured argv
    request.verbosity request.verbosity

namespace Launcher.Steady

variable {launcher : Launcher ω σ} {worlds : ω → Prop} {world other : ω}

/-- A request is carried out in the same way in each of the worlds. -/
theorem carryOut_eq (h : launcher.Steady worlds) (hworld : worlds world) (hother : worlds other)
    (request : Request) (argv : List Bytes) :
    (launcher.carryOut request argv world).status =
      (launcher.carryOut request argv other).status ∧
    (launcher.carryOut request argv world).events =
      (launcher.carryOut request argv other).events := by
  -- Compared with itself, a launch shows that passing the request anew changes nothing.
  have hacross := (h argv request).carryOut ⟨hworld, hother⟩
  have hsame := (h argv request).carryOut ⟨hworld, hworld⟩
  exact ⟨hacross.status, hsame.events.symm.trans hacross.events⟩

theorem carryOut_world (h : launcher.Steady worlds) (hworld : worlds world) (request : Request)
    (argv : List Bytes) : worlds (launcher.carryOut request argv world).world :=
  ((h argv request).carryOut ⟨hworld, hworld⟩).world.1

/-- A launch goes the same way from each of the worlds. -/
theorem startFrom_eq (h : launcher.Steady worlds) (hworld : worlds world) (hother : worlds other)
    (start : Start) :
    (launcher.startFrom start world).status = (launcher.startFrom start other).status ∧
    (launcher.startFrom start world).events = (launcher.startFrom start other).events := by
  simp only [startFrom, main, follow, carryOut_withLookup]
  cases Plan.ofArguments start.lookup start.files start.argv with
  | error error => exact ⟨rfl, rfl⟩
  | ok plan =>
      cases plan with
      | display text => exact ⟨rfl, rfl⟩
      | launch request =>
          obtain ⟨hstatus, hevents⟩ := h.carryOut_eq hworld hother request start.argv
          exact ⟨hstatus, by simp only [hevents]⟩

/-- A launch leads to one of the worlds. -/
theorem startFrom_world (h : launcher.Steady worlds) (hworld : worlds world) (start : Start) :
    worlds (launcher.startFrom start world).world := by
  simp only [startFrom, main, follow, carryOut_withLookup]
  cases Plan.ofArguments start.lookup start.files start.argv with
  | error error => exact hworld
  | ok plan =>
      cases plan with
      | display text => exact hworld
      | launch request => exact h.carryOut_world hworld request start.argv

/-- So do any launches one after the other. -/
theorem startAll_world (h : launcher.Steady worlds) (hworld : worlds world)
    (starts : List Start) : worlds (launcher.startAll starts world).2 := by
  induction starts generalizing world with
  | nil => exact hworld
  | cons start rest ih => exact ih (h.startFrom_world hworld start)

end Launcher.Steady

/-! ## Launches after others -/

namespace Launcher

/-- **Launches do not influence each other.**  With a source and an engine that answer by what
they are called with alone, a launch has the same status after any earlier launches as it has
first, makes the same calls and the same diagnostics, writes the same of them, puts the same on
both streams and ends with the same verbosity, whatever verbosity each process began with.  That
last verbosity is the one of the request, or warnings if the arguments came to no request. -/
theorem startFrom_independent (launcher : Launcher ω σ) {worlds : ω → Prop}
    (hsteady : launcher.Steady worlds) {world : ω} (hworld : worlds world)
    (earlier : List Start) (start : Start) (before initial : Log.Verbosity) :
    let history := launcher.startAll earlier world
    let left := Event.verbosityAfter before (history.1.flatMap Launch.events)
    let launch := launcher.startFrom start history.2
    let first := launcher.startFrom start world
    launch.status = first.status ∧ launch.calls = first.calls ∧ launch.records = first.records ∧
    launch.written left = first.written initial ∧
    (∀ stream, launch.stream left stream = first.stream initial stream) ∧
    launch.verbosity left = first.verbosity initial ∧
    launch.verbosity left =
      Plan.verbosity (Plan.ofArguments start.lookup start.files start.argv) := by
  intro history left launch first
  have hafter : worlds history.2 := hsteady.startAll_world hworld earlier
  obtain ⟨hstatus, hevents⟩ : launch.status = first.status ∧ launch.events = first.events :=
    hsteady.startFrom_eq hafter hworld start
  -- A launch begins by setting the verbosity, so what is seen of it is settled by its events.
  have hemissions : Event.emissions left launch.events = Event.emissions initial first.events := by
    rw [hevents]
    rfl
  have hverbosity (world : ω) (verbosity : Log.Verbosity) :
      (launcher.startFrom start world).verbosity verbosity =
        Plan.verbosity (Plan.ofArguments start.lookup start.files start.argv) :=
    main_verbosity { launcher with lookup := start.lookup } start.files start.argv world verbosity
  refine ⟨hstatus, congrArg Event.calls hevents, congrArg Event.records hevents, ?_, ?_, ?_,
    hverbosity history.2 left⟩
  · simp only [Launch.written, hemissions]
  · intro stream
    simp only [Launch.stream, hemissions]
  · exact (hverbosity history.2 left).trans (hverbosity world initial).symm

/-- After the help was shown, a quiet launch found no segment and a verbose one said everything, a
launch of a program that exits with 3 writes nothing, as it does first, and warnings are in force
again. -/
theorem startFrom_independent_after_verbose :
    let image := (Segment.Header.ofLayout 0x1000 49 49 48).bytes ++ [0xF4]
    let files : Files := { entries := [([Bytes.ofString "kernel.seg"], .file image)] }
    let host : Host Files := fun _ files =>
      (.ok { output := [], delivery := .whole, ending := .ok (.exited 3) }, files)
    let launcher : Launcher Files Segment.Loaded :=
      { source := Segment.fileSource, engine := Engine.command host, lookup := fun _ => none }
    let start (argv : List String) : Start := ⟨argv.map Bytes.ofString, fun _ => none, files⟩
    let earlier := [start ["prog", "--help"], start ["prog", "-q", "-e", "vm", "none.seg"],
      start ["prog", "-v", "-e", "vm", "kernel.seg"]]
    let history := launcher.startAll earlier files
    let left := Event.verbosityAfter .trace (history.1.flatMap Launch.events)
    let launch := launcher.startFrom (start ["prog", "-e", "vm", "kernel.seg"]) history.2
    launcher.Steady (· = files) ∧ launch.status = 3 ∧ launch.written left = [] ∧
      launch.verbosity left = .warn := by
  intro image files host launcher start earlier history left launch
  let last := start ["prog", "-e", "vm", "kernel.seg"]
  have hsteady : launcher.Steady (· = files) :=
    steady_of_programs (fun _ => rfl) (fun _ => none) false
  obtain ⟨hstatus, -, -, hwritten, -, hverbosity, -⟩ :=
    launcher.startFrom_independent hsteady rfl earlier last .trace .off
  have hfirst : (launcher.startFrom last files).status = 3 ∧
      (launcher.startFrom last files).written .off = [] ∧
      (launcher.startFrom last files).verbosity .off = .warn := by
    decide +kernel
  exact ⟨hsteady, hstatus.trans hfirst.1, hwritten.trans hfirst.2.1, hverbosity.trans hfirst.2.2⟩

end Launcher

end ImageLaunch
