import ImageLaunch.Files
import ImageLaunch.Numeral
import ImageLaunch.Segment.Header

/-!
# ImageLaunch.Segment.Image

Packing a payload into a segment image, and a header in words.

An image is the header followed by the payload.  What is left open has a default:
the reservation is the size, and the module object follows the header.
-/

namespace ImageLaunch.Segment

/-- Where a segment is mapped when nothing else is said. -/
def defaultBase : UInt64 := 0x10000000

/-- Why a payload could not be packed. -/
inductive PackFault
  | emptyPayload
  | layout (size reserved : UInt64) (fault : Fault)
  deriving DecidableEq, Repr

/-- The failure without its cause. -/
def PackFault.outermost : PackFault → String
  | .emptyPayload => "payload is empty; a segment needs a module object"
  | .layout size reserved _ =>
    "invalid segment layout (size " ++ Numeral.decimal size.toNat ++ ", reserve " ++
      Numeral.decimal reserved.toNat ++ ")"

/-- The failure with its cause. -/
def PackFault.message (fault : PackFault) : String :=
  match fault with
  | .emptyPayload => fault.outermost
  | .layout _ _ cause => fault.outermost ++ ": " ++ cause.message

/-- The size of the segment that holds a payload. -/
def sizeFor (payload : Bytes) : UInt64 := UInt64.ofNat (headerSize + payload.length)

/-- The header that a payload gets. -/
def headerFor (payload : Bytes) (base : UInt64) (reserve moduleOffset : Option UInt64) : Header :=
  Header.ofLayout base (sizeFor payload) (reserve.getD (sizeFor payload))
    (moduleOffset.getD (UInt64.ofNat headerSize))

/-- Packs a payload behind its header. -/
def pack (payload : Bytes) (base : UInt64) (reserve moduleOffset : Option UInt64) :
    Except PackFault Bytes :=
  if payload = [] then .error .emptyPayload
  else
    let header := headerFor payload base reserve moduleOffset
    match header.check? with
    | some fault => .error (.layout header.size header.reserved fault)
    | none => .ok ((header.encode Header.blank).1 ++ payload)

/-! ## The header in front of an image -/

/-- An image that has room for a header. -/
abbrev Image := { bytes : Bytes // headerSize ≤ bytes.length }

/-- The bytes of an image that a header takes. -/
def Image.front (image : Image) : Block headerSize :=
  ⟨image.1.take headerSize, by rw [List.length_take, Nat.min_eq_left image.2]⟩

/-- What has been packed has its header in front. -/
theorem headerSize_le_of_pack {payload image : Bytes} {base : UInt64}
    {reserve moduleOffset : Option UInt64}
    (h : pack payload base reserve moduleOffset = .ok image) : headerSize ≤ image.length := by
  rw [pack] at h
  split at h
  · cases h
  · simp only at h
    split at h
    · cases h
    · cases h
      rw [List.length_append, (Header.encode _ _).2]
      exact Nat.le_add_right _ _

/-- Packs a payload, as an image. -/
def packImage (payload : Bytes) (base : UInt64) (reserve moduleOffset : Option UInt64) :
    Except PackFault Image :=
  match h : pack payload base reserve moduleOffset with
  | .error fault => .error fault
  | .ok image => .ok ⟨image, headerSize_le_of_pack h⟩

/-- A header in words, one line for each quantity. -/
def Header.describe (header : Header) : String :=
  "version   " ++ Numeral.decimal header.version.toNat ++
  "\nbase      " ++ Numeral.hexadecimal header.base.toNat ++
  "\nsize      " ++ Numeral.decimal header.size.toNat ++ " bytes" ++
  "\nreserved  " ++ Numeral.decimal header.reserved.toNat ++ " bytes (" ++
    Numeral.decimal header.reservation.toNat ++ " mapped)" ++
  "\nmodule    " ++ Numeral.hexadecimal header.moduleAddress.toNat ++
    " (+" ++ Numeral.hexadecimal header.moduleOffset.toNat ++ ")\n"

end ImageLaunch.Segment
