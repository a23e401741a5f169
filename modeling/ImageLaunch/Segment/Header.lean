import ImageLaunch.Bytes.LittleEndian
import ImageLaunch.Word.Align

/-!
# ImageLaunch.Segment.Header

The 48 bytes in front of every segment:

| bytes | field |
|---|---|
| 0–7 | magic |
| 8–11 | version |
| 12–15 | flags |
| 16–23 | base address |
| 24–31 | size, header included |
| 32–39 | reserved size |
| 40–47 | address of the module object |

Numbers are little-endian.  `Header.check?` names the first rule that a header
breaks; decoding refuses a header that breaks one.
-/

namespace ImageLaunch.Segment

/-- Bytes taken by a header. -/
def headerSize : Nat := 48

/-- The first eight bytes of every segment. -/
def magic : Block 8 := ⟨[0x49, 0x4D, 0x47, 0x53, 0x45, 0x47, 0x31, 0x00], rfl⟩

/-- The only version there is. -/
def version : UInt32 := 1

/-- The rule that a header breaks. -/
inductive Fault
  | invalidMagic
  | invalidVersion
  | tooSmall
  | reservationTooSmall
  | misalignedBase
  | moduleOutOfBounds
  | addressOverflow
  deriving DecidableEq, Repr

/-- The broken rule in words. -/
def Fault.message : Fault → String
  | .invalidMagic => "not an image segment (bad magic)"
  | .invalidVersion => "unsupported segment version"
  | .tooSmall => "segment size is smaller than its header"
  | .reservationTooSmall => "reserved size is smaller than segment size"
  | .misalignedBase => "base address is not page aligned"
  | .moduleOutOfBounds => "module object lies outside the segment"
  | .addressOverflow => "segment extends past the end of the address space"

/-- The fields of a header, valid or not. -/
structure Header where
  magic : Block 8
  version : UInt32
  flags : UInt32
  base : UInt64
  size : UInt64
  reserved : UInt64
  moduleAddress : UInt64
  deriving DecidableEq

namespace Header

/-- The header of a segment of `size` bytes, header included, whose module
object starts `moduleOffset` bytes after the start; the address of the module
wraps at the top of the address space. -/
def ofLayout (base size reserved moduleOffset : UInt64) : Header where
  magic := Segment.magic
  version := Segment.version
  flags := 0
  base := base
  size := size
  reserved := reserved
  moduleAddress := base + moduleOffset

/-- Distance from the start of the segment to the module object. -/
def moduleOffset (header : Header) : UInt64 := header.moduleAddress - header.base

/-- Bytes of address space that host the segment: whole pages. -/
def reservation (header : Header) : UInt64 := Word.pageAlign header.reserved

/-! ## The rules -/

/-- One past the last page reserved, if that is an address. -/
def reservationEnd? (header : Header) : Option UInt64 := do
  let padded ← Word.add? header.reserved (Word.pageSize - 1)
  Word.add? header.base (padded &&& ~~~(Word.pageSize - 1))

/-- The first rule that the header breaks. -/
def check? (header : Header) : Option Fault :=
  if header.magic ≠ Segment.magic then some .invalidMagic
  else if header.version ≠ Segment.version then some .invalidVersion
  else if header.size < UInt64.ofNat headerSize then some .tooSmall
  else if header.reserved < header.size then some .reservationTooSmall
  else if header.base ≠ Word.pageAlign header.base then some .misalignedBase
  else if header.reservationEnd?.isNone then some .addressOverflow
  else if header.moduleAddress < header.base + UInt64.ofNat headerSize ∨
      header.base + header.size ≤ header.moduleAddress then some .moduleOutOfBounds
  else none

/-- The header keeps every rule. -/
def Valid (header : Header) : Prop := header.check? = none

instance (header : Header) : Decidable header.Valid :=
  inferInstanceAs (Decidable (header.check? = none))

/-! ## The 48 bytes -/

/-- The bytes of a header, field after field. -/
def bytes (header : Header) : Bytes :=
  header.magic.1 ++ (Bytes.LittleEndian.word32 header.version ++
    (Bytes.LittleEndian.word32 header.flags ++ (Bytes.LittleEndian.word64 header.base ++
      (Bytes.LittleEndian.word64 header.size ++ (Bytes.LittleEndian.word64 header.reserved ++
        Bytes.LittleEndian.word64 header.moduleAddress)))))

/-- A header takes 48 bytes. -/
theorem length_bytes (header : Header) : header.bytes.length = headerSize := by
  have := header.magic.2
  simp [bytes, headerSize, this]

/-- Every field of a header with the offset it is stored at. -/
def fields (header : Header) : List (Nat × Bytes) :=
  [(0, header.magic.1),
   (8, Bytes.LittleEndian.word32 header.version),
   (12, Bytes.LittleEndian.word32 header.flags),
   (16, Bytes.LittleEndian.word64 header.base),
   (24, Bytes.LittleEndian.word64 header.size),
   (32, Bytes.LittleEndian.word64 header.reserved),
   (40, Bytes.LittleEndian.word64 header.moduleAddress)]

/-- The fields written one after the other over a buffer that is blanked first. -/
def writeOver (header : Header) (buffer : Bytes) : Bytes :=
  header.fields.foldl (fun bytes (offset, field) => Bytes.overwrite bytes offset field)
    (List.replicate buffer.length 0)

/-- The fields fill the buffer, whatever it held. -/
theorem writeOver_eq_bytes (header : Header) {buffer : Bytes} (h : buffer.length = headerSize) :
    header.writeOver buffer = header.bytes := by
  have hmagic := header.magic.2
  have hblank : (List.replicate buffer.length 0 : Bytes) = [] ++ List.replicate 48 0 := by
    rw [h]
    rfl
  simp only [writeOver, fields, List.foldl_cons, List.foldl_nil, hblank]
  -- what is written so far is the front that the next field is written behind
  repeat rw [Bytes.overwrite_append _ _ (by simp [hmagic])]
  simp [bytes, hmagic]

/-- Writes a header over a block. -/
def encode (header : Header) (buffer : Block headerSize) : Block headerSize :=
  ⟨header.writeOver buffer.1, by rw [header.writeOver_eq_bytes buffer.2, header.length_bytes]⟩

/-- Nothing but zeros. -/
def blank : Block headerSize := ⟨List.replicate headerSize 0, List.length_replicate⟩

/-- The `count` bytes that start at `offset`. -/
def field (raw : Block headerSize) (offset count : Nat) : Bytes := (raw.1.drop offset).take count

/-- The fields found in 48 bytes, whatever they are. -/
def ofBlock (raw : Block headerSize) : Header where
  magic := ⟨field raw 0 8, by simp [field, raw.2, headerSize]⟩
  version := Bytes.LittleEndian.readWord32 (field raw 8 4)
  flags := Bytes.LittleEndian.readWord32 (field raw 12 4)
  base := Bytes.LittleEndian.readWord64 (field raw 16 8)
  size := Bytes.LittleEndian.readWord64 (field raw 24 8)
  reserved := Bytes.LittleEndian.readWord64 (field raw 32 8)
  moduleAddress := Bytes.LittleEndian.readWord64 (field raw 40 8)

/-- Reads a header and refuses one that breaks a rule. -/
def decode (raw : Block headerSize) : Except Fault Header :=
  match (ofBlock raw).check? with
  | none => .ok (ofBlock raw)
  | some fault => .error fault

end Header

end ImageLaunch.Segment
