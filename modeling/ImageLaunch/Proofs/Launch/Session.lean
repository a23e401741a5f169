import ImageLaunch.Engine.Command
import ImageLaunch.Proofs.Launch.Course

/-!
# ImageLaunch.Proofs.Launch.Session

Launches one after the other, with a source and an engine that may answer differently each
time.  Between two launches every segment that was acquired has been given back, and while
an engine runs exactly one is out.

The calls that a launch reports are checked against the calls that are made: a `recorded`
launcher has a source and an engine that also keep a list of the calls they get, and that
list grows by exactly what the launch reports.
-/

namespace ImageLaunch

variable {ω σ : Type}

/-! ## Noting calls down -/

/-- The reply to a call that is noted after those noted before. -/
def Reply.noting {α : Type} (reply : Reply ω α) (noted : List Call) (call : Call) :
    Reply (ω × List Call) α where
  value := reply.value
  emissions := reply.emissions
  world := (reply.world, noted ++ [call])

namespace Launcher

variable (launcher : Launcher ω σ)

/-- The launcher with a source and an engine that answer as before and note every call. -/
def recorded : Launcher (ω × List Call) σ where
  source := {
    acquire := fun path (world, noted) =>
      let reply := launcher.source.acquire path world
      reply.noting noted (.acquire path reply.value.toBool)
    release := fun segment (world, noted) =>
      (launcher.source.release segment world).noting noted .release }
  engine := {
    prepare := fun request (world, noted) =>
      let reply := launcher.engine.prepare request world
      reply.noting noted (.prepare request reply.value.toBool)
    run := fun segment request argv (world, noted) =>
      (launcher.engine.run segment request argv world).noting noted (.run request argv) }
  lookup := launcher.lookup
  coloured := launcher.coloured

end Launcher

/-- The launch as a recorded launcher makes it, after some calls noted before. -/
def Launch.noting (launch : Launch ω) (noted : List Call) : Launch (ω × List Call) where
  status := launch.status
  events := launch.events
  world := (launch.world, noted ++ launch.calls)

namespace Launcher

variable (launcher : Launcher ω σ)

@[simp] theorem recorded_acquire (path : Bytes) (world : ω) (noted : List Call) :
    launcher.recorded.source.acquire path (world, noted) =
      (launcher.source.acquire path world).noting noted
        (.acquire path (launcher.source.acquire path world).value.toBool) := rfl

@[simp] theorem recorded_release (segment : σ) (world : ω) (noted : List Call) :
    launcher.recorded.source.release segment (world, noted) =
      (launcher.source.release segment world).noting noted .release := rfl

@[simp] theorem recorded_prepare (request : Request) (world : ω) (noted : List Call) :
    launcher.recorded.engine.prepare request (world, noted) =
      (launcher.engine.prepare request world).noting noted
        (.prepare request (launcher.engine.prepare request world).value.toBool) := rfl

@[simp] theorem recorded_run (segment : σ) (request : Request) (argv : List Bytes) (world : ω)
    (noted : List Call) :
    launcher.recorded.engine.run segment request argv (world, noted) =
      (launcher.engine.run segment request argv world).noting noted (.run request argv) := rfl

theorem runSegment_recorded (request : Request) (argv : List Bytes) (segment : σ) (world : ω)
    (noted : List Call) :
    launcher.recorded.runSegment request argv segment (world, noted) =
      (launcher.runSegment request argv segment world).noting noted := by
  rcases hrun : launcher.engine.run segment request argv world with ⟨outcome, told, finished⟩
  cases outcome <;> simp [runSegment, Launch.noting, Launch.calls, said, hrun, Reply.noting]

theorem offerSegment_recorded (request : Request) (argv : List Bytes) (segment : σ) (world : ω)
    (noted : List Call) :
    launcher.recorded.offerSegment request argv segment (world, noted) =
      (launcher.offerSegment request argv segment world).noting noted := by
  rcases hprepare : launcher.engine.prepare request world with ⟨answer, asked, prepared⟩
  cases answer with
  | error message =>
      simp [offerSegment, Launch.noting, Launch.calls, said, hprepare, Reply.noting, Except.toBool]
  | ok answer =>
      simp [offerSegment, Launch.noting, Launch.calls, hprepare, Reply.noting, Except.toBool,
        runSegment_recorded]

theorem carryOut_recorded (request : Request) (argv : List Bytes) (world : ω)
    (noted : List Call) :
    launcher.recorded.carryOut request argv (world, noted) =
      (launcher.carryOut request argv world).noting noted := by
  rcases hacquire : launcher.source.acquire request.segment world with ⟨answer, heard, acquired⟩
  cases answer with
  | error error =>
      simp [carryOut, Launch.noting, Launch.calls, said, hacquire, Reply.noting, Except.toBool]
  | ok segment =>
      simp [carryOut, Launch.noting, Launch.calls, hacquire, Reply.noting, Except.toBool,
        offerSegment_recorded]

/-- **The calls that a launch reports are the calls that are made.** -/
theorem startFrom_recorded (start : Start) (world : ω) (noted : List Call) :
    launcher.recorded.startFrom start (world, noted) =
      (launcher.startFrom start world).noting noted := by
  have hlookup : { launcher.recorded with lookup := start.lookup } =
      { launcher with lookup := start.lookup }.recorded := rfl
  simp only [startFrom, hlookup, main, follow]
  cases hplan : Plan.ofArguments start.lookup start.files start.argv with
  | error error => simp [Launch.noting, Launch.calls, said]
  | ok plan =>
      cases plan with
      | display text => simp [Launch.noting, Launch.calls, recorded]
      | launch request =>
          have hcarry := carryOut_recorded { launcher with lookup := start.lookup } request
            start.argv world noted
          simp [hcarry, Launch.noting, Launch.calls]

/-- A recorded launcher has noted, after some launches, the calls that they report. -/
theorem startAll_recorded (starts : List Start) (world : ω) (noted : List Call) :
    (launcher.recorded.startAll starts (world, noted)).2 =
      ((launcher.startAll starts world).2,
        noted ++ (launcher.startAll starts world).1.flatMap Launch.calls) := by
  induction starts generalizing world noted with
  | nil => simp [startAll]
  | cons start rest ih =>
      simp only [startAll, startFrom_recorded, Launch.noting, ih, List.flatMap_cons,
        List.append_assoc]

end Launcher

/-! ## Segments that are out -/

/-- The call brings a segment. -/
def Call.acquires : Call → Bool
  | .acquire _ succeeded => succeeded
  | _ => false

/-- How many segments have been acquired. -/
def acquisitions (calls : List Call) : Nat := calls.countP Call.acquires

/-- How many segments have been given back. -/
def releases (calls : List Call) : Nat := calls.count .release

theorem acquisitions_append (calls rest : List Call) :
    acquisitions (calls ++ rest) = acquisitions calls + acquisitions rest := List.countP_append

theorem releases_append (calls rest : List Call) :
    releases (calls ++ rest) = releases calls + releases rest := List.count_append

/-- In the calls of a complete launch, what comes before the run is the acquisition and the
question to the engine. -/
theorem before_run {path : Bytes} {asked ran request : Request} {argv seen : List Bytes}
    {before later : List Call}
    (hcalls : [.acquire path true, .prepare asked true, .run ran argv, .release] =
      before ++ .run request seen :: later) :
    before = [.acquire path true, .prepare asked true] := by
  rcases before with _ | ⟨first, _ | ⟨second, _ | ⟨third, _ | ⟨fourth, rest⟩⟩⟩⟩ <;>
    simp at hcalls
  obtain ⟨rfl, rfl, -⟩ := hcalls
  rfl

namespace Course

variable {launcher : Launcher ω σ} {start : Start} {world after : ω} {calls : List Call}
  {status : Int}

/-- A launch gives back what it has acquired. -/
theorem releases_eq (hcourse : Course launcher start world calls status after) :
    releases calls = acquisitions calls := by
  cases hcourse <;> rfl

/-- While the engine runs, the segment of the launch is out. -/
theorem out_during_run (hcourse : Course launcher start world calls status after)
    {before later : List Call} {request : Request} {seen : List Bytes}
    (hcalls : calls = before ++ .run request seen :: later) :
    acquisitions before = releases before + 1 := by
  have hmem : .run request seen ∈ calls := by simp [hcalls]
  cases hcourse with
  | displayed | badArguments | badConfig | unavailable | rejected => simp at hmem
  | ran | failed => rw [before_run hcalls]; rfl

end Course

/-! ## Sessions -/

/-- Launches one after the other: each follows a course from the world that the one before it
has left. -/
inductive Session (launcher : Launcher ω σ) : ω → List Start → List (Launch ω) → ω → Prop
  | nil {world : ω} : Session launcher world [] [] world
  | cons {world after : ω} {start : Start} {rest : List Start} {launch : Launch ω}
      {launches : List (Launch ω)}
      (hcourse : Course launcher start world launch.calls launch.status launch.world)
      (hrest : Session launcher launch.world rest launches after) :
      Session launcher world (start :: rest) (launch :: launches) after

namespace Session

variable {launcher : Launcher ω σ} {world after : ω} {starts : List Start}
  {launches : List (Launch ω)}

/-- Between two launches nothing is out. -/
theorem releases_eq (hsession : Session launcher world starts launches after) (count : Nat) :
    releases ((launches.take count).flatMap Launch.calls) =
      acquisitions ((launches.take count).flatMap Launch.calls) := by
  induction hsession generalizing count with
  | nil => simp [releases, acquisitions]
  | cons hcourse hrest ih =>
      cases count with
      | zero => rfl
      | succ count =>
          rw [List.take_succ_cons, List.flatMap_cons, releases_append, acquisitions_append,
            hcourse.releases_eq, ih]

/-- While an engine runs, exactly one segment is out. -/
theorem out_during_run (hsession : Session launcher world starts launches after)
    {before later : List Call} {request : Request} {seen : List Bytes}
    (hcalls : launches.flatMap Launch.calls = before ++ .run request seen :: later) :
    acquisitions before = releases before + 1 := by
  induction hsession generalizing before with
  | nil => simp at hcalls
  | cons hcourse hrest ih =>
      rw [List.flatMap_cons] at hcalls
      -- The run is one of the later launches, or it is the run of this launch.
      rcases List.append_eq_append_iff.mp hcalls with
        ⟨earlier, hbefore, hlater⟩ | ⟨rest, hthis, hlater⟩
      · rw [hbefore, acquisitions_append, releases_append, hcourse.releases_eq, ih hlater,
          Nat.add_assoc]
      · cases rest with
        | nil =>
            have hnone : acquisitions [] = releases [] + 1 := ih hlater.symm
            simp [acquisitions, releases] at hnone
        | cons call rest =>
            rw [List.cons_append, List.cons.injEq] at hlater
            rw [← hlater.1] at hthis
            exact hcourse.out_during_run hthis

end Session

namespace Launcher

theorem startAll_session (launcher : Launcher ω σ) (starts : List Start) (world : ω) :
    Session launcher world starts (launcher.startAll starts world).1
      (launcher.startAll starts world).2 := by
  induction starts generalizing world with
  | nil => exact .nil
  | cons start rest ih => exact .cons (launcher.startFrom_course start world) (ih _)

/-- **Acquired once, given back once.**  Whatever the source and the engine answer, and
however often the launcher is started, each launch follows a course; the calls that the
source and the engine note are those that the launches report; before and after every launch
as many segments have been given back as were acquired; and during every run exactly one is
out. -/
theorem startAll_calls (launcher : Launcher ω σ) (starts : List Start) (world : ω) :
    let launches := (launcher.startAll starts world).1
    let after := (launcher.startAll starts world).2
    Session launcher world starts launches after ∧
    (∀ noted, (launcher.recorded.startAll starts (world, noted)).2 =
      (after, noted ++ launches.flatMap Launch.calls)) ∧
    (∀ count, releases ((launches.take count).flatMap Launch.calls) =
      acquisitions ((launches.take count).flatMap Launch.calls)) ∧
    ∀ before request argv later,
      launches.flatMap Launch.calls = before ++ .run request argv :: later →
      acquisitions before = releases before + 1 := by
  have hsession := launcher.startAll_session starts world
  exact ⟨hsession, launcher.startAll_recorded starts world, hsession.releases_eq,
    fun _ _ _ _ => hsession.out_during_run⟩

/-- Six launches with segment files and a program that exits with 3: without arguments, for the
help, with a configuration that is not there, for a segment that is not there, without a program,
and one that comes to a run.  Two segments are acquired and given back, and during the run the
second is out. -/
theorem startAll_calls_of_programs :
    let image := (Segment.Header.ofLayout 0x1000 49 49 48).bytes ++ [0xF4]
    let files : Files := { entries := [([Bytes.ofString "kernel.seg"], .file image)] }
    let host : Host Files := fun _ files =>
      (.ok { output := [], delivery := .whole, ending := .ok (.exited 3) }, files)
    let launcher : Launcher Files Segment.Loaded :=
      { source := Segment.fileSource, engine := Engine.command host, lookup := fun _ => none }
    let start (argv : List String) : Start := ⟨argv.map Bytes.ofString, fun _ => none, files⟩
    let last := ["prog", "-e", "vm", "kernel.seg", "--jit"]
    let starts := [start [], start ["prog", "--help"], start ["prog", "-c", "l.toml", "kernel.seg"],
      start ["prog", "none.seg"], start ["prog", "kernel.seg"], start last]
    let launches := (launcher.startAll starts files).1
    let path := Bytes.ofString "kernel.seg"
    let bare : Request := ⟨path, [], none, .warn⟩
    let request : Request :=
      ⟨path, [Bytes.ofString "--jit"], some ⟨Bytes.ofString "vm", []⟩, .warn⟩
    let before : List Call := [.acquire (Bytes.ofString "none.seg") false, .acquire path true,
      .prepare bare false, .release, .acquire path true, .prepare request true]
    launches.map Launch.status = [64, 0, 64, 66, 64, 3] ∧
      (launcher.recorded.startAll starts (files, [])).2.2 =
        before ++ [.run request (last.map Bytes.ofString), .release] ∧
      acquisitions before = releases before + 1 := by
  intro image files host launcher start last starts launches path bare request before
  obtain ⟨-, hrecorded, -, hout⟩ := launcher.startAll_calls starts files
  have hstatus : launches.map Launch.status = [64, 0, 64, 66, 64, 3] := by decide +kernel
  have hcalls : launches.flatMap Launch.calls =
      before ++ [.run request (last.map Bytes.ofString), .release] := by decide +kernel
  refine ⟨hstatus, ?_, hout before request _ _ hcalls⟩
  rw [hrecorded []]
  exact hcalls

end Launcher

end ImageLaunch
