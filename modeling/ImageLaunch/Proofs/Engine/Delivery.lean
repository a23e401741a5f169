import ImageLaunch.Engine.Command
import ImageLaunch.Segment.Source
import ImageLaunch.Proofs.Engine.Handoff
import ImageLaunch.Proofs.Numeral.Writing
import ImageLaunch.Proofs.Segment.Packing

/-!
# ImageLaunch.Proofs.Engine.Delivery

What reaches the child that runs a segment.

A host is asked once for a child, and `recorded` hosts note what they are asked for
(`command_run_recorded`).  A payload that is packed, stored with anything behind it, loaded and
run arrives as it was packed: `packed_delivered`.
-/

namespace ImageLaunch

variable {ω : Type}

/-- The host that answers as before and notes every invocation. -/
def Host.recorded (host : Host ω) : Host (ω × List Invocation) := fun invocation (world, noted) =>
  let (answer, world) := host invocation world
  (answer, world, noted ++ [invocation])

namespace Engine

/-- A run asks the host for one child, whether it can be started or not. -/
theorem command_run_recorded (host : Host ω) {request : Request} {chosen : EngineCommand}
    (hengine : request.engine = some chosen) (segment : Segment.Loaded) (argv : List Bytes)
    (world : ω) (noted : List Invocation) :
    ((command host.recorded).run segment request argv (world, noted)).world.2 =
      noted ++ [invocation chosen request segment] := by
  rcases hhost : host (invocation chosen request segment) world with ⟨answer, after⟩
  cases answer <;> simp [command, hengine, Host.recorded, hhost]

/-- A variable holds a number in hexadecimal. -/
def Announces (added : List (String × String)) (name : String) (n : Nat) : Prop :=
  ∃ text, added.lookup name = some text ∧ Numeral.IsHexadecimal text n

/-- The four variables hold the geometry of the segment. -/
theorem geometry_announces (header : Segment.Header) :
    Announces (geometry header) "IMAGE_SEGMENT_BASE" header.base.toNat ∧
    Announces (geometry header) "IMAGE_SEGMENT_SIZE" header.size.toNat ∧
    Announces (geometry header) "IMAGE_SEGMENT_RESERVED" header.reservation.toNat ∧
    Announces (geometry header) "IMAGE_SEGMENT_MODULE" header.moduleAddress.toNat :=
  ⟨⟨_, rfl, Numeral.hexadecimal_isHexadecimal _⟩, ⟨_, rfl, Numeral.hexadecimal_isHexadecimal _⟩,
    ⟨_, rfl, Numeral.hexadecimal_isHexadecimal _⟩, ⟨_, rfl, Numeral.hexadecimal_isHexadecimal _⟩⟩

/-- A packed image, with something behind it, has come to the child of a request: it loads as
one segment however it is read, and a run of that segment asks the host for one child, which is
fed with the image alone and told where it is to be mapped. -/
structure Delivered (payload : Bytes) (base : UInt64) (reserve moduleOffset : Option UInt64)
    (image trailing : Bytes) (request : Request) (segment : Segment.Loaded)
    (invocation : Invocation) : Prop where
  image_eq : image = segment.header.bytes ++ payload
  loads : ∀ reader : Segment.Reader, reader.habits.Forthcoming →
    reader.data = image ++ trailing → reader.position = 0 →
      (Segment.load reader.faultless).1 = .ok segment
  acquired : ∀ files : Files, files.opened request.segment = .ok (.file (image ++ trailing)) →
    (Segment.fileSource.acquire request.segment files).value = .ok segment
  started : ∀ {ω : Type} (host : Host ω) (argv : List Bytes) (world : ω)
    (noted : List Invocation),
      ((command host.recorded).run segment request argv (world, noted)).world.2 =
        noted ++ [invocation]
  input : invocation.input = image
  taken : ∀ capacity state, Handoff.Reachable capacity invocation.input state →
    state.taken <+: image ∧ (state.AtEnd → state.taken = image)
  announcesBase : Announces invocation.added "IMAGE_SEGMENT_BASE" base.toNat
  announcesSize : Announces invocation.added "IMAGE_SEGMENT_SIZE" (48 + payload.length)
  announcesReserved : ∃ pages, Announces invocation.added "IMAGE_SEGMENT_RESERVED" pages ∧
    IsLeast {bytes | 4096 ∣ bytes ∧ reserve.elim (48 + payload.length) UInt64.toNat ≤ bytes} pages
  announcesModule : Announces invocation.added "IMAGE_SEGMENT_MODULE"
    (base.toNat + moduleOffset.elim 48 UInt64.toNat)

open Segment (headerFor headerSize outcome_pack_append pack_eq_ok_iff)

/-- **What is packed is what the child gets**, for every payload that memory can hold together
with its header. -/
theorem packed_delivered {payload image : Bytes} {base : UInt64}
    {reserve moduleOffset : Option UInt64} {request : Request}
    (hfits : headerSize + payload.length < UInt64.size)
    (hpack : Segment.pack payload base reserve moduleOffset = .ok image)
    (hengine : request.engine.isSome) (trailing : Bytes) :
    ∃ segment invocation,
      Delivered payload base reserve moduleOffset image trailing request segment invocation := by
  obtain ⟨chosen, hchosen⟩ := Option.isSome_iff_exists.mp hengine
  obtain ⟨-, hvalid, himage⟩ := pack_eq_ok_iff.mp hpack
  have hloads := outcome_pack_append hfits hpack trailing
  have hgeometry := geometry_announces (headerFor payload base reserve moduleOffset)
  have hsize := Segment.toNat_sizeFor hfits
  refine ⟨⟨headerFor payload base reserve moduleOffset, image⟩,
    invocation chosen request ⟨headerFor payload base reserve moduleOffset, image⟩, ?_⟩
  constructor
  case image_eq => exact himage
  case loads =>
    intro reader hforthcoming hdata hposition
    rw [reader.load_faultless hforthcoming, hdata, hposition, hloads]
  case acquired =>
    intro files hopened
    rw [Segment.fileSource_acquire_value, Segment.acquire_of_file hopened, hloads]
    rfl
  case started => exact fun host argv world noted =>
    command_run_recorded host hchosen _ argv world noted
  case input => rfl
  case taken =>
    intro capacity state hreachable
    exact ⟨hreachable.accounted.front, hreachable.taken_of_atEnd⟩
  case announcesBase => exact hgeometry.1
  case announcesSize => exact hsize ▸ hgeometry.2.1
  case announcesReserved =>
    refine ⟨_, hgeometry.2.2.1, ?_⟩
    rw [hvalid.toNat_reservation, Segment.Header.wholePages,
      Segment.toNat_reserved_headerFor hfits]
    exact Word.roundUp_isLeast _ (by decide)
  case announcesModule =>
    have hmodule := hvalid.toNat_moduleOffset
    rw [Segment.toNat_moduleOffset_headerFor] at hmodule
    exact hmodule ▸ hgeometry.2.2.2

/-- A payload for the top of the address space, with more behind its image. -/
theorem packed_delivered_at_the_top :
    let payload := Bytes.ofString "kernel-module"
    let base : UInt64 := 0xFFFFFFFFFFFFE000
    let header := Segment.Header.ofLayout base 61 61 60
    let image := header.bytes ++ payload
    let request : Request := {
      segment := Bytes.ofString "kernel.seg"
      passthrough := [Bytes.ofString "--flag"]
      engine := some ⟨Bytes.ofString "vm", []⟩
      verbosity := .warn }
    headerSize + payload.length < UInt64.size ∧
      Segment.pack payload base none (some 60) = .ok image ∧
      request.engine.isSome ∧
      ∃ segment invocation,
        Delivered payload base none (some 60) image [0xFF] request segment invocation := by
  intro payload base header image request
  have hfits : headerSize + payload.length < UInt64.size := by decide +kernel
  have hpack : Segment.pack payload base none (some 60) = .ok image := by decide +kernel
  exact ⟨hfits, hpack, rfl, packed_delivered hfits hpack rfl [0xFF]⟩

end Engine

end ImageLaunch
