import ImageLaunch.Proofs.Segment.Packing

/-!
# ImageLaunch.Proofs.Segment.Repacking

Packing with everything spelled out, and taking an image apart again, are inverse.

* `Exact` — an image that begins with a header without flags and ends where that header says;
* `headerFor_drop` — the payload of such an image gets the header in front of it back;
* `headerFor_injective` — a header tells what it was made from, the payload aside;
* `pack_bijective` — packing reaches the images of exact size, each from one place only.
-/

namespace ImageLaunch.Segment

/-- The image begins with a header without flags, and is as long as that header declares. -/
structure Exact (image : Bytes) (header : Header) : Prop where
  decodes : ∃ raw : Block headerSize, raw.1 = image.take headerSize ∧
    Header.decode raw = .ok header
  flagless : header.flags = 0
  length_eq : image.length = header.size.toNat

variable {payload image : Bytes} {base reserve moduleOffset : UInt64} {header : Header}

/-! ## Headers of payloads -/

/-- A valid header without flags is laid out from its own quantities. -/
theorem Header.ofLayout_of_valid (h : header.Valid) (hflags : header.flags = 0) :
    ofLayout header.base header.size header.reserved header.moduleOffset = header := by
  obtain ⟨hmagic, hversion, -⟩ := h.front
  have hmodule : header.base + header.moduleOffset = header.moduleAddress := by
    rw [Header.moduleOffset, UInt64.add_comm, UInt64.sub_add_cancel]
  rw [ofLayout, ← hmagic, ← hversion, hmodule, ← hflags]

/-- A header tells the base, the reservation and the offset that it was made from. -/
theorem headerFor_injective {other : Bytes} {base' reserve' moduleOffset' : UInt64}
    (h : headerFor payload base (some reserve) (some moduleOffset) =
      headerFor other base' (some reserve') (some moduleOffset')) :
    base = base' ∧ reserve = reserve' ∧ moduleOffset = moduleOffset' := by
  have hoffset := congrArg Header.moduleOffset h
  simp only [headerFor, Option.getD_some, Header.moduleOffset_ofLayout] at hoffset
  exact ⟨congrArg Header.base h, congrArg Header.reserved h, hoffset⟩

/-! ## Images of exact size -/

namespace Exact

theorem valid (h : Exact image header) : header.Valid := by
  obtain ⟨raw, -, hdecode⟩ := h.decodes
  exact (Header.decode_eq_ok_iff.mp hdecode).2

/-- An image of exact size is its header with the rest behind it. -/
theorem eq_append (h : Exact image header) : image = header.bytes ++ image.drop headerSize := by
  obtain ⟨raw, hraw, hdecode⟩ := h.decodes
  have hbytes : header.bytes = image.take headerSize := by
    rw [← hraw, ← header.encode_eq_bytes Header.blank, ← (Header.decode_eq_ok_iff.mp hdecode).1,
      Header.encode_ofBlock]
  rw [hbytes, List.take_append_drop]

/-- A header of 48 bytes is followed by something. -/
theorem drop_ne_nil (h : Exact image header) : image.drop headerSize ≠ [] := by
  have hsize := h.valid.size_gt
  rw [ne_eq, List.drop_eq_nil_iff, h.length_eq, headerSize]
  omega

/-- Header and payload together take what the header declares. -/
theorem length_drop (h : Exact image header) :
    headerSize + (image.drop headerSize).length = header.size.toNat := by
  have hsize := h.valid.size_gt
  rw [List.length_drop, h.length_eq, headerSize]
  omega

/-- The payload of an image gets the header in front of it back. -/
theorem headerFor_drop (h : Exact image header) :
    headerFor (image.drop headerSize) header.base (some header.reserved)
      (some header.moduleOffset) = header := by
  have hsize : sizeFor (image.drop headerSize) = header.size := by
    rw [sizeFor, h.length_drop, UInt64.ofNat_toNat]
  rw [headerFor, hsize]
  exact Header.ofLayout_of_valid h.valid h.flagless

/-- Packing an image's payload with what its header declares gives the image back. -/
theorem pack_drop (h : Exact image header) :
    pack (image.drop headerSize) header.base (some header.reserved) (some header.moduleOffset) =
      .ok image := by
  rw [pack_eq_ok_iff, h.headerFor_drop]
  exact ⟨h.drop_ne_nil, h.valid, h.eq_append⟩

end Exact

/-- What was packed, from a payload that memory holds together with its header, is of exact
size. -/
theorem exact_of_pack (hfits : headerSize + payload.length < UInt64.size)
    (h : pack payload base (some reserve) (some moduleOffset) = .ok image) :
    Exact image (headerFor payload base (some reserve) (some moduleOffset)) := by
  obtain ⟨-, hvalid, himage⟩ := pack_eq_ok_iff.mp h
  refine ⟨⟨_, ?_, Header.decode_encode_of_valid hvalid Header.blank⟩, rfl, ?_⟩
  · rw [Header.encode_eq_bytes, himage, List.take_left' (Header.length_bytes _)]
  · rw [himage, List.length_append, Header.length_bytes]
    exact (toNat_sizeFor hfits).symm

/-- An image comes from one payload, base, reservation and offset only. -/
theorem pack_inj {other : Bytes} {base' reserve' moduleOffset' : UInt64}
    (h : pack payload base (some reserve) (some moduleOffset) = .ok image)
    (hother : pack other base' (some reserve') (some moduleOffset') = .ok image) :
    payload = other ∧ base = base' ∧ reserve = reserve' ∧ moduleOffset = moduleOffset' := by
  obtain ⟨-, -, himage⟩ := pack_eq_ok_iff.mp h
  obtain ⟨-, -, himage'⟩ := pack_eq_ok_iff.mp hother
  obtain ⟨hbytes, hpayload⟩ := List.append_inj (himage.symm.trans himage')
    (by rw [Header.length_bytes, Header.length_bytes])
  exact ⟨hpayload, headerFor_injective (Header.bytes_injective hbytes)⟩

/-- **Packing is one-to-one onto the images of exact size.**  Of all byte strings, those that
begin with a header without flags and are as long as it declares, and no others, are packed from
a payload that memory holds together with its header.  Each is packed from what follows the
header and what the header declares, and from nothing else. -/
theorem pack_bijective :
    (∀ image,
      (∃ payload base reserve moduleOffset, headerSize + payload.length < UInt64.size ∧
        pack payload base (some reserve) (some moduleOffset) = .ok image) ↔
      ∃ header, Exact image header) ∧
    (∀ image header, Exact image header →
      ∀ payload base reserve moduleOffset,
        pack payload base (some reserve) (some moduleOffset) = .ok image ↔
          payload = image.drop 48 ∧ base = header.base ∧ reserve = header.reserved ∧
            moduleOffset = header.moduleOffset) ∧
    (∀ image payload base reserve moduleOffset payload' base' reserve' moduleOffset',
      pack payload base (some reserve) (some moduleOffset) = .ok image →
      pack payload' base' (some reserve') (some moduleOffset') = .ok image →
      payload = payload' ∧ base = base' ∧ reserve = reserve' ∧ moduleOffset = moduleOffset') := by
  refine ⟨?_, ?_, fun _ _ _ _ _ _ _ _ _ => pack_inj⟩
  · intro image
    constructor
    · rintro ⟨payload, base, reserve, moduleOffset, hfits, hpack⟩
      exact ⟨_, exact_of_pack hfits hpack⟩
    · rintro ⟨header, hexact⟩
      refine ⟨_, _, _, _, ?_, hexact.pack_drop⟩
      rw [hexact.length_drop]
      exact header.size.toNat_lt_size
  · intro image header hexact payload base reserve moduleOffset
    constructor
    · intro hpack
      exact pack_inj hpack hexact.pack_drop
    · rintro ⟨rfl, rfl, rfl, rfl⟩
      exact hexact.pack_drop

end ImageLaunch.Segment
