import ImageLaunch.Engine.Child

/-!
# ImageLaunch.Engine.Handoff

Feeding a child's input through a pipe.  A writer puts the contents into a pipe that
holds so many bytes at most, while the child takes bytes out, may close its input,
and ends some time.  `Step` lists what can happen, in any order; `Reachable` are the
states that can come of it.

The child is the only reader of the pipe, so closing its input, which ending does
too, makes the next write fail; the writer then stops.  The writer closes its own end
when everything is written, and only then does the child find the end of its input.

A `Feeding` adds the launcher, which waits for the child to end and then for the writer to
stop; the ending it goes on with, and what the writer has to report, make up what is known
of the child afterwards.
-/

namespace ImageLaunch.Engine

/-- What the writer is doing. -/
inductive Writer
  | writing
  | done
  | broken
  deriving DecidableEq, Repr

/-- A handing-over under way. -/
structure Handoff where
  unwritten : Bytes
  pipe : Bytes := []
  taken : Bytes := []
  writer : Writer := .writing
  /-- The child holds its input open. -/
  reading : Bool := true
  /-- How the child ended, once it has. -/
  ending : Option Ending := none
  deriving DecidableEq, Repr

namespace Handoff

/-- Nothing has happened yet. -/
def start (contents : Bytes) : Handoff := { unwritten := contents }

/-- What can happen, with a pipe that holds `capacity` bytes. -/
inductive Step (capacity : Nat) : Handoff → Handoff → Prop
  /-- Some bytes go into the pipe. -/
  | write (state : Handoff) (count : Nat) :
      state.writer = .writing → state.reading = true →
      0 < count → count ≤ state.unwritten.length → state.pipe.length + count ≤ capacity →
      Step capacity state { state with
        unwritten := state.unwritten.drop count
        pipe := state.pipe ++ state.unwritten.take count }
  /-- Nothing is left to write, and the writer closes its end. -/
  | finish (state : Handoff) :
      state.writer = .writing → state.unwritten = [] →
      Step capacity state { state with writer := .done }
  /-- A write fails because nobody reads any more. -/
  | breakOff (state : Handoff) :
      state.writer = .writing → state.reading = false → state.unwritten ≠ [] →
      Step capacity state { state with writer := .broken }
  /-- The child takes some bytes. -/
  | take (state : Handoff) (count : Nat) :
      state.reading = true → 0 < count → count ≤ state.pipe.length →
      Step capacity state { state with
        pipe := state.pipe.drop count
        taken := state.taken ++ state.pipe.take count }
  /-- The child closes its input; what is in the pipe is lost. -/
  | close (state : Handoff) :
      state.reading = true → state.ending = none →
      Step capacity state { state with reading := false, pipe := [] }
  /-- The child ends, which closes its input. -/
  | leave (state : Handoff) (ending : Ending) :
      state.ending = none →
      Step capacity state { state with reading := false, pipe := [], ending := some ending }

/-- The states that handing over some contents can come to. -/
inductive Reachable (capacity : Nat) (contents : Bytes) : Handoff → Prop
  | start : Reachable capacity contents (start contents)
  | step {before after : Handoff} :
      Reachable capacity contents before → Step capacity before after →
      Reachable capacity contents after

/-- The child finds the end of its input: the pipe is empty and no writer is left. -/
def AtEnd (state : Handoff) : Prop :=
  state.reading = true ∧ state.pipe = [] ∧ state.writer = .done

/-- The child waits for bytes that have not been written yet. -/
def Starved (state : Handoff) : Prop :=
  state.reading = true ∧ state.pipe = [] ∧ state.unwritten ≠ []

/-- The handing-over is finished: the child has ended and the writer has stopped. -/
def Over (state : Handoff) : Prop := state.ending.isSome ∧ state.writer ≠ .writing

/-- What the writer has to report in the end. -/
def delivery (state : Handoff) : Delivery :=
  if state.writer = .broken then .cutShort else .whole

end Handoff

/-! ## Waiting for the child -/

/-- What the launcher does while its writer writes: it waits for the child to end, then for
the writer to stop, and then it goes on with the ending. -/
inductive Waiter
  | waiting
  | joining (ending : Ending)
  | done (ending : Ending)
  deriving DecidableEq, Repr

/-- A handing-over, and the launcher that waits. -/
structure Feeding where
  handoff : Handoff
  waiter : Waiter := .waiting
  deriving DecidableEq, Repr

namespace Feeding

/-- The child has just been started. -/
def start (contents : Bytes) : Feeding := { handoff := Handoff.start contents }

/-- What can happen while a child is fed through a pipe that holds `capacity` bytes. -/
inductive Step (capacity : Nat) : Feeding → Feeding → Prop
  /-- The writer or the child does something. -/
  | move {before after : Handoff} (waiter : Waiter) :
      Handoff.Step capacity before after → Step capacity ⟨before, waiter⟩ ⟨after, waiter⟩
  /-- The launcher learns how the child has ended. -/
  | notice (handoff : Handoff) (ending : Ending) :
      handoff.ending = some ending → Step capacity ⟨handoff, .waiting⟩ ⟨handoff, .joining ending⟩
  /-- The launcher goes on, now that the writer has stopped. -/
  | join (handoff : Handoff) (ending : Ending) :
      handoff.writer ≠ .writing → Step capacity ⟨handoff, .joining ending⟩ ⟨handoff, .done ending⟩

/-- What feeding a child with some contents can come to. -/
inductive Reachable (capacity : Nat) (contents : Bytes) : Feeding → Prop
  | start : Reachable capacity contents (start contents)
  | step {before after : Feeding} :
      Reachable capacity contents before → Step capacity before after →
      Reachable capacity contents after

/-- What is known of the child when the launcher goes on, by what the child has written. -/
def finished? (feeding : Feeding) (output : List (Stream × Bytes)) : Option Finished :=
  match feeding.waiter with
  | .done ending => some {
      output := output
      delivery := feeding.handoff.delivery
      ending := .ok ending }
  | _ => none

end Feeding

/-- Bytes that a pipe holds. -/
def pipeCapacity : Nat := 65536

/-- A pipe holds pages of this many bytes, and a page takes new bytes only when all of it
has been read. -/
def pipePage : Nat := 4096

/-- How the input went out to a child that took `taken` bytes of `total` before it
closed its input, if the writer keeps the pipe as full as it gets. -/
def delivered (total taken : Nat) : Delivery :=
  if taken / pipePage * pipePage + pipeCapacity < total then .cutShort else .whole

end ImageLaunch.Engine
