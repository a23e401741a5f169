import ImageLaunch.Engine.Command
import ImageLaunch.Proofs.Launch.Course

/-!
# ImageLaunch.Proofs.Launch.Lockstep

Two launches side by side, made by launchers whose sources and engines cannot be told apart by
the requests that they are given (`Launcher.Alike`).  Each may act on a world of its own; the
worlds only have to correspond, in a way that the calls keep.

The two requests may differ wherever the engines do not look, as long as they name the same
segment.  Then they are carried out in the same way (`Launcher.Alike.carryOut`): with the same
status, with the same things said, and with the same calls but for the request that is passed.
Segment files and programs are such sources and engines for requests that differ in the verbosity
(`Launcher.alike_of_programs`).
-/

namespace ImageLaunch

variable {ω ω' σ : Type}

/-! ## One request in place of another -/

/-- The call with another request passed. -/
def Call.about (request : Request) : Call → Call
  | .acquire path succeeded => .acquire path succeeded
  | .prepare _ accepted => .prepare request accepted
  | .run _ argv => .run request argv
  | .release => .release

namespace Event

/-- The event with another request passed, if it is a call. -/
def about (request : Request) : Event → Event
  | .call made => .call (made.about request)
  | .emit emission => .emit emission
  | .setVerbosity verbosity => .setVerbosity verbosity

variable (request : Request)

@[simp] theorem about_call (made : Call) : about request (.call made) = .call (made.about request) :=
  rfl

@[simp] theorem about_emit (emission : Emission) : about request (.emit emission) = .emit emission :=
  rfl

@[simp] theorem about_comp_emit : about request ∘ Event.emit = Event.emit := rfl

end Event

/-! ## What cannot be told apart -/

/-- Two replies are the same, in worlds that correspond. -/
structure Reply.Alike {α : Type} (corresponds : ω → ω' → Prop) (reply : Reply ω α)
    (other : Reply ω' α) : Prop where
  value : reply.value = other.value
  emissions : reply.emissions = other.emissions
  world : corresponds reply.world other.world

/-- Two launches go the same way, the second with another request, and leave worlds that
correspond. -/
structure Launch.Alike (corresponds : ω → ω' → Prop) (request : Request) (launch : Launch ω)
    (other : Launch ω') : Prop where
  status : launch.status = other.status
  events : launch.events.map (Event.about request) = other.events
  world : corresponds launch.world other.world

/-- The sources and the engines of two launchers answer alike, the first about one request and
the second about another request for the same segment. -/
structure Launcher.Alike (corresponds : ω → ω' → Prop) (launcher : Launcher ω σ)
    (other : Launcher ω' σ) (argv : List Bytes) (request request' : Request) : Prop where
  segment : request.segment = request'.segment
  acquire : ∀ {world : ω} {world' : ω'}, corresponds world world' →
    (launcher.source.acquire request.segment world).Alike corresponds
      (other.source.acquire request.segment world')
  release : ∀ (segment : σ) {world : ω} {world' : ω'}, corresponds world world' →
    (launcher.source.release segment world).Alike corresponds
      (other.source.release segment world')
  prepare : ∀ {world : ω} {world' : ω'}, corresponds world world' →
    (launcher.engine.prepare request world).Alike corresponds
      (other.engine.prepare request' world')
  run : ∀ (segment : σ) {world : ω} {world' : ω'}, corresponds world world' →
    (launcher.engine.run segment request argv world).Alike corresponds
      (other.engine.run segment request' argv world')

/-! ## Side by side -/

namespace Launcher.Alike

variable {corresponds : ω → ω' → Prop} {launcher : Launcher ω σ} {other : Launcher ω' σ}
  {argv : List Bytes} {request request' : Request} {world : ω} {world' : ω'}

theorem runSegment (h : launcher.Alike corresponds other argv request request') (segment : σ)
    (hworld : corresponds world world') :
    (launcher.runSegment request argv segment world).Alike corresponds request'
      (other.runSegment request' argv segment world') := by
  obtain ⟨hvalue, hsaid, hran⟩ := h.run segment hworld
  obtain ⟨-, hreleased, hafter⟩ := h.release segment hran
  constructor
  case status =>
    simp only [Launcher.runSegment, hvalue]
  case events =>
    simp only [Launcher.runSegment, hvalue, hsaid, hreleased, h.segment]
    cases (other.engine.run segment request' argv world').value <;> simp [said, Call.about]
  case world => exact hafter

theorem offerSegment (h : launcher.Alike corresponds other argv request request') (segment : σ)
    (hworld : corresponds world world') :
    (launcher.offerSegment request argv segment world).Alike corresponds request'
      (other.offerSegment request' argv segment world') := by
  rcases hprepare : launcher.engine.prepare request world with ⟨answer, asked, prepared⟩
  rcases hprepare' : other.engine.prepare request' world' with ⟨answer', asked', prepared'⟩
  have hprepared := h.prepare hworld
  rw [hprepare, hprepare'] at hprepared
  obtain ⟨rfl, rfl, hasked⟩ := hprepared
  cases answer with
  | error message =>
      obtain ⟨-, hreleased, hafter⟩ := h.release segment hasked
      constructor
      case status => simp only [Launcher.offerSegment, hprepare, hprepare']
      case events =>
        simp only [Launcher.offerSegment, hprepare, hprepare', hreleased]
        simp [said, Call.about]
      case world => simpa only [Launcher.offerSegment, hprepare, hprepare'] using hafter
  | ok answer =>
      obtain ⟨hstatus, hevents, hafter⟩ := h.runSegment segment hasked
      constructor
      case status => simpa only [Launcher.offerSegment, hprepare, hprepare'] using hstatus
      case events => simp [Launcher.offerSegment, hprepare, hprepare', hevents, Call.about]
      case world => simpa only [Launcher.offerSegment, hprepare, hprepare'] using hafter

/-- **Requests that cannot be told apart are carried out alike.** -/
theorem carryOut (h : launcher.Alike corresponds other argv request request')
    (hworld : corresponds world world') :
    (launcher.carryOut request argv world).Alike corresponds request'
      (other.carryOut request' argv world') := by
  -- Both sources are asked by the same path.
  rcases hacquire : launcher.source.acquire request'.segment world with ⟨answer, heard, acquired⟩
  rcases hacquire' : other.source.acquire request'.segment world' with ⟨answer', heard', acquired'⟩
  have hacquired := h.acquire hworld
  rw [h.segment, hacquire, hacquire'] at hacquired
  obtain ⟨rfl, rfl, hafter⟩ := hacquired
  cases answer with
  | error error =>
      constructor
      case status => simp only [Launcher.carryOut, h.segment, hacquire, hacquire']
      case events =>
        simp only [Launcher.carryOut, h.segment, hacquire, hacquire']
        simp [said, Call.about]
      case world => simpa only [Launcher.carryOut, h.segment, hacquire, hacquire'] using hafter
  | ok segment =>
      obtain ⟨hstatus, hevents, hworlds⟩ := h.offerSegment segment hafter
      constructor
      case status => simpa only [Launcher.carryOut, h.segment, hacquire, hacquire'] using hstatus
      case events =>
        simp only [Launcher.carryOut, h.segment, hacquire, hacquire']
        simp [hevents, Call.about]
      case world => simpa only [Launcher.carryOut, h.segment, hacquire, hacquire'] using hworlds

end Launcher.Alike

/-! ## Segment files and programs -/

/-- The sources and the engines that a launcher has in practice do not look at the verbosity.
They are alike between files that hold the same segment, on a host whose programs do the same
with either files and leave them as they are. -/
theorem Launcher.alike_of_programs {host : Host Files} (request : Request) {files files' : Files}
    (hsegment : Segment.acquire files request.segment = Segment.acquire files' request.segment)
    (hhost : ∀ invocation, ∃ answer,
      host invocation files = (answer, files) ∧ host invocation files' = (answer, files'))
    (lookup lookup' : Lookup) (coloured coloured' : Bool) (argv : List Bytes)
    (low high : Log.Verbosity) :
    Launcher.Alike (fun world other => world = files ∧ other = files')
      ⟨Segment.fileSource, Engine.command host, lookup, coloured⟩
      ⟨Segment.fileSource, Engine.command host, lookup', coloured'⟩ argv
      { request with verbosity := low } { request with verbosity := high } := by
  constructor
  case segment => rfl
  case acquire =>
    rintro _ _ ⟨rfl, rfl⟩
    simp only [Segment.fileSource, hsegment]
    cases Segment.acquire _ request.segment <;> exact ⟨rfl, rfl, rfl, rfl⟩
  case release =>
    rintro segment _ _ ⟨rfl, rfl⟩
    exact ⟨rfl, rfl, rfl, rfl⟩
  case prepare =>
    rintro _ _ ⟨rfl, rfl⟩
    exact ⟨rfl, rfl, rfl, rfl⟩
  case run =>
    rintro segment world world' ⟨rfl, rfl⟩
    change ((Engine.command host).run segment request argv world).Alike _
      ((Engine.command host).run segment request argv world')
    simp only [Engine.command]
    cases request.engine with
    | none => exact ⟨rfl, rfl, rfl, rfl⟩
    | some command =>
        obtain ⟨answer, hanswer, hanswer'⟩ := hhost (Engine.invocation command request segment)
        simp only [hanswer, hanswer']
        cases answer <;> exact ⟨rfl, rfl, rfl, rfl⟩

end ImageLaunch
