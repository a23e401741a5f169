import ImageLaunch.Engine.Command
import ImageLaunch.Proofs.Engine.Handoff

/-!
# ImageLaunch.Proofs.Engine.Feeding

A writer, a child and a waiting launcher, in any order.

* `Handoff.Reachable.canWrite_of_starved` — a child that waits for bytes gets some: the pipe has
  room, and the writer has neither stopped nor met a closed input;
* `Feeding.Step.distance_lt` and `Feeding.Reachable.exists_step` — once the child has ended, every
  step brings the launcher nearer to going on, and it is never stuck before;
* `feeding_fed` — so at every point of a run the bytes are where they should be, and what the run
  answers is settled by the way the child ends, whatever became of the bytes.
-/

namespace ImageLaunch

/-- The status that a way to end stands for. -/
def Ending.status : Ending → Except EngineError Int
  | .exited code => .ok code
  | .signalled signal => .ok (128 + signal)
  | .unknown => .error .noStatus

namespace Engine

/-! ## A closed input -/

namespace Handoff

variable {capacity : Nat} {contents : Bytes} {before after state : Handoff} {ending : Ending}

/-- A write fails, and a child ends, only where the input is closed. -/
structure Orderly (state : Handoff) : Prop where
  broken : state.writer = .broken → state.reading = false
  ended : state.ending.isSome → state.reading = false

theorem orderly_start (contents : Bytes) : Orderly (start contents) where
  broken hbroken := nomatch hbroken
  ended hended := nomatch hended

theorem Step.orderly (hstep : Step capacity before after) (h : Orderly before) :
    Orderly after := by
  cases hstep with
  | write count hwriting hreading hpos hcount hroom => exact ⟨h.broken, h.ended⟩
  | finish hwriting hnone => exact ⟨fun hbroken => (nomatch hbroken), h.ended⟩
  | breakOff hwriting hclosed hmore => exact ⟨fun _ => hclosed, fun _ => hclosed⟩
  | take count hreading hpos hcount => exact ⟨h.broken, h.ended⟩
  | close hreading hrunning => exact ⟨fun _ => rfl, fun _ => rfl⟩
  | leave ending hrunning => exact ⟨fun _ => rfl, fun _ => rfl⟩

theorem Reachable.orderly (h : Reachable capacity contents state) : Orderly state := by
  induction h with
  | start => exact orderly_start contents
  | step _ hstep ih => exact hstep.orderly ih

/-- Bytes can go into the pipe. -/
def CanWrite (capacity : Nat) (state : Handoff) : Prop :=
  ∃ after, Step capacity state after ∧ after.unwritten.length < state.unwritten.length

/-- A child that waits for bytes is not left waiting. -/
theorem Reachable.canWrite_of_starved (h : Reachable capacity contents state)
    (hcapacity : 0 < capacity) (hstarved : state.Starved) : state.CanWrite capacity := by
  obtain ⟨hreading, hpipe, hmore⟩ := hstarved
  have hwriting : state.writer = .writing := by
    cases hwriter : state.writer with
    | writing => rfl
    | done => exact absurd (h.accounted.written hwriter) hmore
    | broken =>
        have hclosed := h.orderly.broken hwriter
        rw [hreading] at hclosed
        cases hclosed
  have hcount : 1 ≤ state.unwritten.length := List.length_pos_iff.mpr hmore
  have hroom : state.pipe.length + 1 ≤ capacity := by
    rw [hpipe, List.length_nil]
    omega
  refine ⟨_, .write state 1 hwriting hreading Nat.one_pos hcount hroom, ?_⟩
  rw [List.length_drop]
  omega

/-! ## A child that has ended -/

/-- How a child has ended does not change. -/
theorem Step.ending_eq (hstep : Step capacity before after)
    (hended : before.ending = some ending) : after.ending = some ending := by
  cases hstep with
  | leave other hrunning =>
      rw [hended] at hrunning
      cases hrunning
  | _ => exact hended

/-- A writer that has stopped does not go on. -/
theorem Step.writer_ne (hstep : Step capacity before after)
    (hstopped : before.writer ≠ .writing) : after.writer ≠ .writing := by
  cases hstep with
  | write count hwriting hreading hpos hcount hroom => exact absurd hwriting hstopped
  | finish hwriting hnone => exact absurd hwriting hstopped
  | breakOff hwriting hclosed hmore => exact absurd hwriting hstopped
  | take count hreading hpos hcount => exact hstopped
  | close hreading hrunning => exact hstopped
  | leave ending hrunning => exact hstopped

/-- All that can still happen to a child that has ended is that the writer stops. -/
theorem Step.stops (hstep : Step capacity before after) (horderly : Orderly before)
    (hended : before.ending = some ending) :
    before.writer = .writing ∧ after.writer ≠ .writing := by
  have hclosed : before.reading = false := horderly.ended (by rw [hended]; rfl)
  cases hstep with
  | write count hwriting hreading hpos hcount hroom => rw [hclosed] at hreading; cases hreading
  | finish hwriting hnone => exact ⟨hwriting, nofun⟩
  | breakOff hwriting _ hmore => exact ⟨hwriting, nofun⟩
  | take count hreading hpos hcount => rw [hclosed] at hreading; cases hreading
  | close hreading hrunning => rw [hclosed] at hreading; cases hreading
  | leave other hrunning => rw [hended] at hrunning; cases hrunning

/-- The writer stops after the child has ended: either all is written, or the next write
fails. -/
theorem Reachable.exists_stop (h : Reachable capacity contents state)
    (hended : state.ending = some ending) (hwriting : state.writer = .writing) :
    ∃ after, Step capacity state after := by
  have hclosed : state.reading = false := h.orderly.ended (by rw [hended]; rfl)
  by_cases hnone : state.unwritten = []
  · exact ⟨_, .finish state hwriting hnone⟩
  · exact ⟨_, .breakOff state hwriting hclosed hnone⟩

end Handoff

/-! ## The launcher that waits -/

/-- The ending that the launcher has learned of. -/
def Waiter.ending? : Waiter → Option Ending
  | .waiting => none
  | .joining ending | .done ending => some ending

namespace Feeding

variable {capacity : Nat} {contents : Bytes} {before after feeding : Feeding} {ending : Ending}

/-- Waiting does not disturb the handing-over. -/
theorem Reachable.handoff (h : Reachable capacity contents feeding) :
    Handoff.Reachable capacity contents feeding.handoff := by
  induction h with
  | start => exact .start
  | step _ hstep ih =>
      cases hstep with
      | move waiter hmove => exact .step ih hmove
      | notice handoff ending hended => exact ih
      | join handoff ending hstopped => exact ih

/-- The launcher knows what has happened: how the child has ended, and that the writer has
stopped. -/
structure Informed (feeding : Feeding) : Prop where
  ended : ∀ ending, feeding.waiter.ending? = some ending → feeding.handoff.ending = some ending
  stopped : ∀ ending, feeding.waiter = .done ending → feeding.handoff.writer ≠ .writing

theorem informed_start (contents : Bytes) : Informed (start contents) where
  ended _ hknown := nomatch hknown
  stopped _ hdone := nomatch hdone

theorem Step.informed (hstep : Step capacity before after) (h : Informed before) :
    Informed after := by
  cases hstep with
  | move waiter hmove =>
      exact ⟨fun ending hknown => hmove.ending_eq (h.ended ending hknown),
        fun ending hdone => hmove.writer_ne (h.stopped ending hdone)⟩
  | notice handoff ending hended =>
      refine ⟨fun other hknown => ?_, fun _ hdone => nomatch hdone⟩
      cases hknown
      exact hended
  | join handoff ending hstopped =>
      exact ⟨fun other hknown => h.ended other hknown, fun _ _ => hstopped⟩

theorem Reachable.informed (h : Reachable capacity contents feeding) : Informed feeding := by
  induction h with
  | start => exact informed_start contents
  | step _ hstep ih => exact hstep.informed ih

/-- The launcher goes on only when the handing-over is finished. -/
theorem Reachable.over (h : Reachable capacity contents feeding)
    (hdone : feeding.waiter = .done ending) : feeding.handoff.Over := by
  have hended := h.informed.ended ending (by rw [hdone]; rfl)
  exact ⟨by rw [hended]; rfl, h.informed.stopped ending hdone⟩

/-! ## Coming to an end -/

/-- Steps that are left once the child has ended: the writer stops, the launcher learns of the
ending, and it goes on. -/
def distance (feeding : Feeding) : Nat :=
  (if feeding.handoff.writer = .writing then 1 else 0) +
    match feeding.waiter with
    | .waiting => 2
    | .joining _ => 1
    | .done _ => 0

/-- Every step after the child has ended brings the launcher nearer to going on. -/
theorem Step.distance_lt (hstep : Step capacity before after)
    (horderly : before.handoff.Orderly) (hended : before.handoff.ending = some ending) :
    after.distance < before.distance := by
  cases hstep with
  | move waiter hmove =>
      obtain ⟨hwriting, hstopped⟩ := hmove.stops horderly hended
      simp only [distance, if_pos hwriting, if_neg hstopped]
      omega
  | notice handoff ending _ =>
      simp only [distance]
      omega
  | join handoff ending hstopped =>
      simp only [distance]
      omega

/-- Once the child has ended, the launcher is not stuck before it goes on. -/
theorem Reachable.exists_step (h : Reachable capacity contents feeding)
    (hended : feeding.handoff.ending = some ending) :
    feeding.waiter = .done ending ∨ ∃ after, Step capacity feeding after := by
  obtain ⟨handoff, waiter⟩ := feeding
  cases waiter with
  | waiting => exact .inr ⟨_, .notice handoff ending hended⟩
  | joining known =>
      by_cases hwriting : handoff.writer = .writing
      · obtain ⟨after, hmove⟩ := h.handoff.exists_stop hended hwriting
        exact .inr ⟨_, .move (.joining known) hmove⟩
      · exact .inr ⟨_, .join handoff known hwriting⟩
  | done known =>
      have hknown : handoff.ending = some known := h.informed.ended known rfl
      rw [hended] at hknown
      cases hknown
      exact .inl rfl

end Feeding

/-! ## The run -/

/-- A run answers with what the ending of its child stands for, whatever became of its input. -/
theorem command_run_value {ω : Type} {host : Host ω} {request : Request} {chosen : EngineCommand}
    {segment : Segment.Loaded} {world after : ω} {finished : Finished} {ending : Ending}
    (hengine : request.engine = some chosen)
    (hhost : host (invocation chosen request segment) world = (.ok finished, after))
    (hended : finished.ending = .ok ending) (argv : List Bytes) :
    ((command host).run segment request argv world).value = ending.status := by
  simp only [command, hengine, hhost, hended]
  cases ending <;> rfl

/-- What holds at a point of feeding a child with a segment. -/
structure Fed (capacity : Nat) (segment : Segment.Loaded) (feeding : Feeding) : Prop where
  /-- Nothing is lost, doubled or out of order while the child holds its input open. -/
  conserved : feeding.handoff.reading = true →
    feeding.handoff.taken ++ feeding.handoff.pipe ++ feeding.handoff.unwritten = segment.contents
  front : feeding.handoff.taken <+: segment.contents
  /-- The child finds no early end of its input. -/
  complete : feeding.handoff.AtEnd → feeding.handoff.taken = segment.contents
  /-- The child does not wait for bytes that cannot be written. -/
  served : feeding.handoff.Starved → feeding.handoff.CanWrite capacity
  /-- A child that has ended does not leave the launcher waiting. -/
  returning : ∀ ending, feeding.handoff.ending = some ending →
    (feeding.waiter = .done ending ∨ ∃ after, Feeding.Step capacity feeding after) ∧
    ∀ after, Feeding.Step capacity feeding after → after.distance < feeding.distance
  /-- The launcher goes on only when the child has ended and the writer has stopped. -/
  joined : ∀ ending, feeding.waiter = .done ending → feeding.handoff.Over
  /-- Going on, the launcher knows how the child has ended and what it has written. -/
  known : ∀ ending, feeding.waiter = .done ending → ∀ output,
    ∃ finished, feeding.finished? output = some finished ∧
      finished.ending = .ok ending ∧ finished.output = output
  /-- The run answers with what the ending stands for, however the input went out. -/
  answered : ∀ output finished, feeding.finished? output = some finished →
    ∃ ending, feeding.handoff.ending = some ending ∧
      ∀ {ω : Type} (host : Host ω) (request : Request) (chosen : EngineCommand)
        (argv : List Bytes) (delivery : Delivery) (world after : ω),
        request.engine = some chosen →
        host (invocation chosen request segment) world = (.ok { finished with delivery }, after) →
        ((command host).run segment request argv world).value = ending.status

namespace Feeding

variable {capacity : Nat} {contents : Bytes} {feeding : Feeding}

/-- A launcher that goes on knows the ending that it goes on with. -/
theorem exists_finished {ending : Ending} (hdone : feeding.waiter = .done ending)
    (output : List (Stream × Bytes)) :
    ∃ finished, feeding.finished? output = some finished ∧
      finished.ending = .ok ending ∧ finished.output = output := by
  simp only [finished?, hdone]
  exact ⟨_, rfl, rfl, rfl⟩

/-- What is known of the child afterwards is how it has ended. -/
theorem Reachable.ending_of_finished (h : Reachable capacity contents feeding)
    {output : List (Stream × Bytes)} {finished : Finished}
    (hfinished : feeding.finished? output = some finished) :
    ∃ ending, feeding.handoff.ending = some ending ∧ finished.ending = .ok ending := by
  unfold finished? at hfinished
  split at hfinished
  next ending hdone =>
    cases hfinished
    exact ⟨ending, h.informed.ended ending (by rw [hdone]; rfl), rfl⟩
  next => cases hfinished

end Feeding

/-- **Feeding is safe in every order of steps.**  Whatever the writer, the child and the launcher
do, through a pipe that holds anything at all: the bytes of the segment are where they should be,
nobody waits in vain, and the answer of the run is settled by the way the child ends. -/
theorem feeding_fed {capacity : Nat} (hcapacity : 0 < capacity) (segment : Segment.Loaded)
    {feeding : Feeding} (h : Feeding.Reachable capacity segment.contents feeding) :
    Fed capacity segment feeding := by
  have haccounted := h.handoff.accounted
  constructor
  case conserved =>
    intro hreading
    rw [List.append_assoc]
    exact haccounted.kept hreading
  case front => exact haccounted.front
  case complete => exact h.handoff.taken_of_atEnd
  case served => exact h.handoff.canWrite_of_starved hcapacity
  case returning =>
    intro ending hended
    exact ⟨h.exists_step hended, fun after hstep => hstep.distance_lt h.handoff.orderly hended⟩
  case joined => exact fun ending hdone => h.over hdone
  case known => exact fun ending hdone => Feeding.exists_finished hdone
  case answered =>
    intro output finished hfinished
    obtain ⟨ending, hended, hknown⟩ := h.ending_of_finished hfinished
    refine ⟨ending, hended, ?_⟩
    intro ω host request chosen argv delivery world after hengine hhost
    exact command_run_value hengine hhost hknown argv

/-- Through a pipe of one byte: the child takes a byte, closes its input while the next one is in
the pipe, and exits; the writer's pipe breaks, and the launcher goes on. -/
theorem feeding_fed_broken_pipe :
    let contents : Bytes := [0x49, 0x4D, 0x47]
    let segment : Segment.Loaded := ⟨.ofLayout 0x10000000 49 49 48, contents⟩
    let handoff : Handoff := {
      unwritten := [0x47], taken := [0x49], writer := .broken, reading := false
      ending := some (.exited 3) }
    let feeding : Feeding := ⟨handoff, .done (.exited 3)⟩
    0 < 1 ∧ Feeding.Reachable 1 segment.contents feeding ∧ Fed 1 segment feeding := by
  intro contents segment handoff feeding
  have hreachable : Feeding.Reachable 1 contents feeding := by
    refine .step ?_ (.join handoff (.exited 3) (by decide))
    refine .step ?_ (.move _ (.breakOff { handoff with writer := .writing } rfl rfl (by decide)))
    refine .step ?_ (.notice _ (.exited 3) rfl)
    refine .step ?_ (.move _ (.leave
      { handoff with writer := .writing, ending := none } (.exited 3) rfl))
    refine .step ?_ (.move _ (.close
      { handoff with writer := .writing, ending := none, reading := true, pipe := [0x4D] } rfl rfl))
    refine .step ?_ (.move _ (.write
      { unwritten := [0x4D, 0x47], taken := [0x49] } 1 rfl rfl (by decide) (by decide) (by decide)))
    refine .step ?_ (.move _ (.take
      { unwritten := [0x4D, 0x47], pipe := [0x49] } 1 rfl (by decide) (by decide)))
    exact .step .start (.move _ (.write (.start contents) 1 rfl rfl (by decide) (by decide)
      (by decide)))
  exact ⟨by decide, hreachable, feeding_fed (by decide) segment hreachable⟩

end Engine

end ImageLaunch
