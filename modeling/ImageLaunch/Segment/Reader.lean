import ImageLaunch.Bytes
import ImageLaunch.Files.IoError

/-!
# ImageLaunch.Segment.Reader

A stream of bytes with a position, read by calls that may answer with fewer bytes
than were asked for, may be interrupted, and may fail from some position on.
`Habits` says how a particular stream behaves; the loops over it, `gather` and
`readBlock`, are written against the single call.
-/

namespace ImageLaunch.Segment

/-- How a stream answers. -/
structure Habits where
  /-- The most bytes that the `n`-th answered read returns; unbounded if none. -/
  most : Nat → Option Nat := fun _ => none
  /-- How many times the `n`-th read is interrupted before it is answered. -/
  pauses : Nat → Nat := fun _ => 0
  /-- The position at and past which reads fail, and how they fail. -/
  failAt : Option (Nat × IoError) := none
  /-- How seeking fails, if it does. -/
  seekFails : Option IoError := none

/-- A stream at a position. -/
structure Reader where
  data : Bytes
  position : Nat := 0
  habits : Habits := {}
  /-- Reads answered so far. -/
  turn : Nat := 0
  /-- Interruptions since the last answer. -/
  paused : Nat := 0

namespace Reader

/-- The answer to one call. -/
inductive Answer
  | interrupted
  | failed (error : IoError)
  | read (bytes : Bytes)

/-- The most that a read may return here: what was asked for, what the stream
gives in this turn, and what lies before the failing position. -/
def allowance (reader : Reader) (wanted : Nat) : Nat :=
  let most := match reader.habits.most reader.turn with
    | some most => min wanted most
    | none => wanted
  match reader.habits.failAt with
  | some (failing, _) => min most (failing - reader.position)
  | none => most

/-- One call for at most `wanted` bytes. -/
def call (reader : Reader) (wanted : Nat) : Answer × Reader :=
  if reader.paused < reader.habits.pauses reader.turn then
    (.interrupted, { reader with paused := reader.paused + 1 })
  else
    let answered := { reader with turn := reader.turn + 1, paused := 0 }
    match reader.habits.failAt with
    | some (failing, error) =>
      if failing ≤ reader.position then (.failed error, answered)
      else
        let bytes := (reader.data.drop reader.position).take (reader.allowance wanted)
        (.read bytes, { answered with position := reader.position + bytes.length })
    | none =>
      let bytes := (reader.data.drop reader.position).take (reader.allowance wanted)
      (.read bytes, { answered with position := reader.position + bytes.length })

/-- Repeats an interrupted call, `patience` times at most. -/
def callAgain (reader : Reader) (wanted : Nat) : (patience : Nat) → Except IoError Bytes × Reader
  | 0 =>
    match reader.call wanted with
    | (.read bytes, reader) => (.ok bytes, reader)
    | (.failed error, reader) => (.error error, reader)
    | (.interrupted, reader) => (.ok [], reader)
  | patience + 1 =>
    match reader.call wanted with
    | (.read bytes, reader) => (.ok bytes, reader)
    | (.failed error, reader) => (.error error, reader)
    | (.interrupted, reader) => reader.callAgain wanted patience

/-- One answered read: interruptions are retried until the stream answers. -/
def read (reader : Reader) (wanted : Nat) : Except IoError Bytes × Reader :=
  reader.callAgain wanted (reader.habits.pauses reader.turn)

/-- What a loop of reads has collected, and the failure that ended it if one
did. -/
structure Gathered where
  bytes : Bytes
  failure : Option IoError
  reader : Reader

/-- Reads until `wanted` bytes have come, a read returns none, or one fails.
Every read that goes on brings at least one byte, so `wanted` rounds suffice. -/
def gather (reader : Reader) (wanted : Nat) : (rounds : Nat) → Gathered
  | 0 => ⟨[], none, reader⟩
  | rounds + 1 =>
    if wanted = 0 then ⟨[], none, reader⟩
    else match reader.read wanted with
      | (.error error, reader) => ⟨[], some error, reader⟩
      | (.ok [], reader) => ⟨[], none, reader⟩
      | (.ok bytes, reader) =>
        let rest := reader.gather (wanted - bytes.length) rounds
        ⟨bytes ++ rest.bytes, rest.failure, rest.reader⟩

/-- At most `count` bytes, as many as the stream has. -/
def readUpTo (reader : Reader) (count : Nat) : Gathered := reader.gather count count

/-- Exactly `count` bytes; a stream that ends before is a short read. -/
def readBlock (reader : Reader) (count : Nat) : Except IoError (Block count) × Reader :=
  let gathered := reader.readUpTo count
  match gathered.failure with
  | some error => (.error error, gathered.reader)
  | none =>
    if h : gathered.bytes.length = count then (.ok ⟨gathered.bytes, h⟩, gathered.reader)
    else (.error .shortRead, gathered.reader)

/-- Goes back to the start. -/
def rewind (reader : Reader) : Except IoError Unit × Reader :=
  match reader.habits.seekFails with
  | some error => (.error error, reader)
  | none => (.ok (), { reader with position := 0 })

end Reader

end ImageLaunch.Segment
