import ImageLaunch.Segment.Image
import ImageLaunch.Proofs.Segment.Loading

/-!
# ImageLaunch.Proofs.Segment.Packing

What packing a payload yields, and that it loads again.

* `pack_eq_ok_iff` — an image is the bytes of a valid header with the payload behind them;
* `headerFor` in numbers: its size, its whole pages and the address of its module object;
* `outcome_pack_append` — an image loads as it was packed, whatever follows it.
-/

namespace ImageLaunch.Segment

variable {payload image : Bytes} {base : UInt64} {reserve moduleOffset : Option UInt64}

/-- A payload packs exactly if it is not empty and gets a valid header. -/
theorem pack_eq_ok_iff :
    pack payload base reserve moduleOffset = .ok image ↔
      payload ≠ [] ∧ (headerFor payload base reserve moduleOffset).Valid ∧
        image = (headerFor payload base reserve moduleOffset).bytes ++ payload := by
  rw [pack]
  by_cases hempty : payload = []
  · simp [hempty]
  · rw [if_neg hempty]
    cases hcheck : (headerFor payload base reserve moduleOffset).check? with
    | some fault => simp [Header.Valid, hcheck]
    | none =>
        simp only [Header.Valid, hcheck, Header.encode_eq_bytes, Except.ok.injEq, ne_eq, hempty,
          not_false_eq_true, true_and]
        exact eq_comm

/-! ## The header of a payload in numbers -/

/-- Memory addresses header and payload, so their size is a word. -/
theorem toNat_sizeFor (h : headerSize + payload.length < UInt64.size) :
    (sizeFor payload).toNat = 48 + payload.length :=
  UInt64.toNat_ofNat_of_lt' h

/-- What is reserved is what was asked for, or else the size. -/
theorem toNat_reserved_headerFor (h : headerSize + payload.length < UInt64.size) :
    (headerFor payload base reserve moduleOffset).reserved.toNat =
      reserve.elim (48 + payload.length) UInt64.toNat := by
  cases reserve with
  | none => exact toNat_sizeFor h
  | some reserve => rfl

/-- The offset of the module object is the one that was asked for, even if its address wraps. -/
theorem Header.moduleOffset_ofLayout (base size reserved moduleOffset : UInt64) :
    (ofLayout base size reserved moduleOffset).moduleOffset = moduleOffset := by
  rw [Header.moduleOffset, ofLayout, UInt64.add_comm, UInt64.add_sub_cancel]

theorem toNat_moduleOffset_headerFor :
    (headerFor payload base reserve moduleOffset).moduleOffset.toNat =
      moduleOffset.elim 48 UInt64.toNat := by
  rw [headerFor, Header.moduleOffset_ofLayout]
  cases moduleOffset <;> rfl

/-! ## Loading what was packed -/

/-- The bytes of a valid header decode to it. -/
theorem Header.decode_encode_of_valid {header : Header} (h : header.Valid)
    (buffer : Block headerSize) : decode (header.encode buffer) = .ok header :=
  decode_eq_ok_iff.mpr ⟨header.ofBlock_encode buffer, h⟩

/-- Counting in words may lose what memory cannot hold, but adds nothing. -/
theorem size_le_length_of_pack (h : pack payload base reserve moduleOffset = .ok image) :
    (headerFor payload base reserve moduleOffset).size.toNat ≤ image.length := by
  obtain ⟨-, -, himage⟩ := pack_eq_ok_iff.mp h
  rw [himage, List.length_append, Header.length_bytes]
  exact UInt64.toNat_ofNat'.trans_le (Nat.mod_le _ _)

theorem packImage_eq_ok_iff {image : Image} :
    packImage payload base reserve moduleOffset = .ok image ↔
      pack payload base reserve moduleOffset = .ok image.1 := by
  rw [packImage]
  split
  · next fault hpack => simp [hpack]
  · next bytes hpack => simp [hpack, Subtype.ext_iff]

theorem packImage_of_pack (h : pack payload base reserve moduleOffset = .ok image) :
    packImage payload base reserve moduleOffset = .ok ⟨image, headerSize_le_of_pack h⟩ :=
  packImage_eq_ok_iff.mpr h

theorem Image.block?_eq (image : Image) :
    Bytes.block? headerSize image.1 = some (image.front, image.1.drop headerSize) :=
  Bytes.block?_eq_some_iff.mpr (List.take_append_drop headerSize image.1).symm

/-- What stands in front of a packed image decodes to the header that the payload got. -/
theorem decode_front {image : Image}
    (h : packImage payload base reserve moduleOffset = .ok image) :
    Header.decode image.front = .ok (headerFor payload base reserve moduleOffset) := by
  obtain ⟨-, hvalid, himage⟩ := pack_eq_ok_iff.mp (packImage_eq_ok_iff.mp h)
  have hfront : image.front =
      (headerFor payload base reserve moduleOffset).encode Header.blank := by
    apply Subtype.ext
    show image.1.take headerSize = _
    rw [Header.encode_eq_bytes, himage, List.take_left' (Header.length_bytes _)]
  rw [hfront, Header.decode_encode_of_valid hvalid]

/-- **An image loads as it was packed**, whatever follows it. -/
theorem outcome_pack_append (hfits : headerSize + payload.length < UInt64.size)
    (h : pack payload base reserve moduleOffset = .ok image) (trailing : Bytes) :
    outcome (image ++ trailing) 0 =
      .ok ⟨headerFor payload base reserve moduleOffset, image⟩ := by
  obtain ⟨-, hvalid, himage⟩ := pack_eq_ok_iff.mp h
  have hlength : image.length = (sizeFor payload).toNat := by
    rw [himage, List.length_append, Header.length_bytes, toNat_sizeFor hfits]
    rfl
  have hdrop : (image ++ trailing).drop 0 =
      ((headerFor payload base reserve moduleOffset).encode Header.blank).1 ++
        (payload ++ trailing) := by
    rw [List.drop_zero, Header.encode_eq_bytes, himage, List.append_assoc]
  refine outcome_eq_ok_iff.mpr ⟨?_, ?_, ?_⟩
  · rw [headerAt_of_append hdrop, Header.decode_encode_of_valid hvalid]
    rfl
  · show (sizeFor payload).toNat ≤ _
    rw [← hlength, List.length_append]
    exact Nat.le_add_right _ _
  · show image = List.take (sizeFor payload).toNat _
    rw [← hlength, List.take_left]

end ImageLaunch.Segment
