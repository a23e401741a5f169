import ImageLaunch.Proofs.Engine.Delivery
import ImageLaunch.Proofs.Numeral.Reading

/-!
# ImageLaunch.Proofs.Engine.Geometry

What a child can rely on to map the segment that it is given, without checking it again.

* `geometry_tells` — the four variables read back as the quantities of the header;
* `Mappable` — numbers by which a segment can be mapped;
* `acquired_mappable` — whatever file a segment comes from, its child gets such numbers.
-/

namespace ImageLaunch.Engine

/-- A variable holds a text that reads back as a number. -/
def Tells (added : List (String × String)) (name : String) (n : UInt64) : Prop :=
  ∃ text, added.lookup name = some text ∧ Numeral.read text = .ok n

/-- The four variables read back as the geometry of the segment. -/
theorem geometry_tells (header : Segment.Header) :
    Tells (geometry header) "IMAGE_SEGMENT_BASE" header.base ∧
    Tells (geometry header) "IMAGE_SEGMENT_SIZE" header.size ∧
    Tells (geometry header) "IMAGE_SEGMENT_RESERVED" header.reservation ∧
    Tells (geometry header) "IMAGE_SEGMENT_MODULE" header.moduleAddress :=
  ⟨⟨_, rfl, Numeral.read_hexadecimal _⟩, ⟨_, rfl, Numeral.read_hexadecimal _⟩,
    ⟨_, rfl, Numeral.read_hexadecimal _⟩, ⟨_, rfl, Numeral.read_hexadecimal _⟩⟩

/-- A child is told where its input can be mapped: whole pages from a page boundary on, which
hold all of the input and no page more than what is reserved, end before the top of the address
space, and have the module object in the input behind the header. -/
structure Mappable (invocation : Invocation) (reserved base size pages moduleAddress : UInt64) :
    Prop where
  tellsBase : Tells invocation.added "IMAGE_SEGMENT_BASE" base
  tellsSize : Tells invocation.added "IMAGE_SEGMENT_SIZE" size
  tellsReserved : Tells invocation.added "IMAGE_SEGMENT_RESERVED" pages
  tellsModule : Tells invocation.added "IMAGE_SEGMENT_MODULE" moduleAddress
  offered : size.toNat = invocation.input.length
  baseAligned : 4096 ∣ base.toNat
  pagesAligned : 4096 ∣ pages.toNat
  large : 49 ≤ size.toNat
  held : size.toNat ≤ pages.toNat
  reserved_le : reserved.toNat ≤ pages.toNat
  lt_reserved : pages.toNat < reserved.toNat + 4096
  fits : base.toNat + pages.toNat < 2 ^ 64
  module_mem : base.toNat + 48 ≤ moduleAddress.toNat ∧
    moduleAddress.toNat < base.toNat + size.toNat

/-- A segment that holds what a valid header declares is mappable by its header's quantities. -/
theorem mappable_of_valid {segment : Segment.Loaded} (hvalid : segment.header.Valid)
    (hlength : segment.contents.length = segment.header.size.toNat) (chosen : EngineCommand)
    (request : Request) :
    Mappable (invocation chosen request segment) segment.header.reserved segment.header.base
      segment.header.size segment.header.reservation segment.header.moduleAddress := by
  obtain ⟨hbase, hsize, hreserved, hmodule⟩ := geometry_tells segment.header
  obtain ⟨-, -, haligned⟩ := hvalid.front
  have hpages : segment.header.reservation.toNat =
      Word.roundUp segment.header.reserved.toNat 4096 := hvalid.toNat_reservation
  have hheld := Word.le_roundUp segment.header.reserved.toNat (by decide : 0 < 4096)
  constructor
  case tellsBase => exact hbase
  case tellsSize => exact hsize
  case tellsReserved => exact hreserved
  case tellsModule => exact hmodule
  case offered => exact hlength.symm
  case baseAligned => exact haligned
  case pagesAligned =>
    rw [hpages]
    exact Word.dvd_roundUp _ _
  case large => exact hvalid.size_gt
  case held =>
    rw [hpages]
    exact Nat.le_trans hvalid.reached.reserved hheld
  case reserved_le =>
    rw [hpages]
    exact hheld
  case lt_reserved =>
    rw [hpages]
    exact Word.roundUp_lt _ (by decide)
  case fits =>
    rw [hpages]
    exact hvalid.reached.fits
  case module_mem => exact hvalid.module_mem

/-- **Whatever is acquired can be mapped as the child is told.**  For every file that yields a
segment and every request with an engine, a run asks the host for one child: the engine's program
with its own arguments, the segment's path and the arguments passed through, in this order, and
with variables that read back as numbers by which its input can be mapped. -/
theorem acquired_mappable {files : Files} {path : Bytes} {segment : Segment.Loaded}
    {request : Request} {chosen : EngineCommand}
    (hacquired : (Segment.fileSource.acquire path files).value = .ok segment)
    (hengine : request.engine = some chosen) :
    ∃ invocation,
      (∀ {ω : Type} (host : Host ω) (argv : List Bytes) (world : ω) (noted : List Invocation),
        ((command host.recorded).run segment request argv (world, noted)).world.2 =
          noted ++ [invocation]) ∧
      invocation.program = chosen.program ∧
      invocation.args = chosen.args ++ [request.segment] ++ request.passthrough ∧
      ∃ base size pages moduleAddress,
        Mappable invocation segment.header.reserved base size pages moduleAddress := by
  rw [Segment.fileSource_acquire_value] at hacquired
  obtain ⟨contents, -, houtcome⟩ := Segment.acquire_eq_ok_iff.mp hacquired
  obtain ⟨hheader, hsize, hcontents⟩ := Segment.outcome_eq_ok_iff.mp houtcome
  have hvalid : segment.header.Valid := Segment.valid_of_headerAt hheader
  have hlength : segment.contents.length = segment.header.size.toNat := by
    rw [hcontents, List.length_take, Nat.min_eq_left hsize]
  refine ⟨invocation chosen request segment, ?_, rfl, ?_,
    _, _, _, _, mappable_of_valid hvalid hlength chosen request⟩
  · exact fun host argv world noted => command_run_recorded host hengine segment argv world noted
  · simp [invocation]

/-- A file that no packing makes, with flags and more than its header declares, for the last
pages of the address space. -/
theorem acquired_mappable_at_the_top :
    let header : Segment.Header := {
      Segment.Header.ofLayout 0xFFFFFFFFFFFFD000 50 4097 49 with flags := 7 }
    let path := Bytes.ofString "kernel.seg"
    let files : Files := { entries := [([path], .file (header.bytes ++ [0xAB, 0xCD, 0xEF]))] }
    let segment : Segment.Loaded := ⟨header, header.bytes ++ [0xAB, 0xCD]⟩
    let chosen : EngineCommand := ⟨Bytes.ofString "vm", [Bytes.ofString "--jit"]⟩
    let request : Request := {
      segment := path, passthrough := [Bytes.ofString "--"], engine := some chosen
      verbosity := .warn }
    (Segment.fileSource.acquire path files).value = .ok segment ∧
      request.engine = some chosen ∧
      ∃ invocation,
        (∀ {ω : Type} (host : Host ω) (argv : List Bytes) (world : ω) (noted : List Invocation),
          ((command host.recorded).run segment request argv (world, noted)).world.2 =
            noted ++ [invocation]) ∧
        invocation.program = chosen.program ∧
        invocation.args = chosen.args ++ [request.segment] ++ request.passthrough ∧
        ∃ base size pages moduleAddress,
          Mappable invocation 4097 base size pages moduleAddress := by
  intro header path files segment chosen request
  have hacquired : (Segment.fileSource.acquire path files).value = .ok segment := by
    decide +kernel
  exact ⟨hacquired, rfl, acquired_mappable hacquired rfl⟩

end ImageLaunch.Engine
