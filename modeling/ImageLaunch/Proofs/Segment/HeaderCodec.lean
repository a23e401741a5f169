import Mathlib
import ImageLaunch.Segment.Header

/-!
# ImageLaunch.Proofs.Segment.HeaderCodec

A header and its 48 bytes determine each other.

* `encode_eq_digits` — every byte of a number is a digit of it to the base 256;
* `ofBlock_encode`, `encode_ofBlock` — reading the fields and writing them are inverse, for
  every header and every 48 bytes, valid or not;
* `decode_eq_ok_iff` — decoding also checks the rules;
* `encode_inverse_decode` — it accepts exactly the encodings of the valid headers.
-/

namespace ImageLaunch

namespace Bytes.LittleEndian

/-- The digits of a number to the base 256, the digit of `256 ^ place` at `place`. -/
def digits (width n : Nat) : Bytes :=
  (List.range width).map fun place => UInt8.ofNat (n / 256 ^ place)

/-- Every byte of a number is a digit of it. -/
theorem encode_eq_digits (width n : Nat) : encode width n = digits width n := by
  induction width generalizing n with
  | zero => rfl
  | succ width ih =>
      have hshift : ∀ place, n / 256 / 256 ^ place = n / 256 ^ (place + 1) := by
        intro place
        rw [Nat.div_div_eq_div_mul, Nat.pow_succ']
      rw [encode, ih, digits, digits, List.range_succ_eq_map, List.map_cons, List.map_map]
      simp [Function.comp_def, hshift]

end Bytes.LittleEndian

namespace Segment.Header

open Bytes.LittleEndian

/-! ## Fields of 48 bytes -/

/-- The bytes from a field on are the field and the bytes from the next field on. -/
theorem drop_eq_field_append (raw : Block headerSize) (offset count : Nat) :
    raw.1.drop offset = field raw offset count ++ raw.1.drop (offset + count) := by
  rw [field, ← List.drop_drop, List.take_append_drop]

theorem length_field (raw : Block headerSize) {offset count : Nat}
    (h : offset + count ≤ headerSize) : (field raw offset count).length = count := by
  rw [field, List.length_take, List.length_drop, raw.2]
  omega

theorem word32_field (raw : Block headerSize) {offset : Nat} (h : offset + 4 ≤ headerSize) :
    word32 (readWord32 (field raw offset 4)) = field raw offset 4 :=
  word32_readWord32 (length_field raw h)

theorem word64_field (raw : Block headerSize) {offset : Nat} (h : offset + 8 ≤ headerSize) :
    word64 (readWord64 (field raw offset 8)) = field raw offset 8 :=
  word64_readWord64 (length_field raw h)

/-- Seven fields, none left out and none read twice, make up the 48 bytes. -/
theorem eq_fields (raw : Block headerSize) :
    raw.1 = field raw 0 8 ++ (field raw 8 4 ++ (field raw 12 4 ++ (field raw 16 8 ++
      (field raw 24 8 ++ (field raw 32 8 ++ field raw 40 8))))) := by
  have hend : raw.1.drop 48 = [] := List.drop_of_length_le (Nat.le_of_eq raw.2)
  calc raw.1
    _ = raw.1.drop 0 := List.drop_zero.symm
    _ = _ := by
      rw [drop_eq_field_append raw 0 8, drop_eq_field_append raw 8 4,
        drop_eq_field_append raw 12 4, drop_eq_field_append raw 16 8,
        drop_eq_field_append raw 24 8, drop_eq_field_append raw 32 8,
        drop_eq_field_append raw 40 8, hend, List.append_nil]

/-! ## Reading and writing -/

/-- An encoded header is its fields one after the other, whatever the buffer held. -/
theorem encode_eq_bytes (header : Header) (buffer : Block headerSize) :
    (header.encode buffer).1 = header.bytes :=
  header.writeOver_eq_bytes buffer.2

/-- Every field of an encoded header is found where it was written. -/
theorem ofBlock_encode (header : Header) (buffer : Block headerSize) :
    ofBlock (header.encode buffer) = header := by
  have hfields := eq_fields (header.encode buffer)
  rw [encode_eq_bytes, bytes] at hfields
  -- the same bytes cut at the same places: the pieces are the same, one after the other
  obtain ⟨hmagic, hfields⟩ := List.append_inj hfields
    (by rw [header.magic.2, length_field _ (by decide)])
  obtain ⟨hversion, hfields⟩ := List.append_inj hfields
    (by rw [length_word32, length_field _ (by decide)])
  obtain ⟨hflags, hfields⟩ := List.append_inj hfields
    (by rw [length_word32, length_field _ (by decide)])
  obtain ⟨hbase, hfields⟩ := List.append_inj hfields
    (by rw [length_word64, length_field _ (by decide)])
  obtain ⟨hsize, hfields⟩ := List.append_inj hfields
    (by rw [length_word64, length_field _ (by decide)])
  obtain ⟨hreserved, hmodule⟩ := List.append_inj hfields
    (by rw [length_word64, length_field _ (by decide)])
  simp [ofBlock, ← hmagic, ← hversion, ← hflags, ← hbase, ← hsize, ← hreserved, ← hmodule]

/-- The bytes of a header tell it from every other. -/
theorem bytes_injective : Function.Injective bytes := by
  intro header other h
  have hsame : header.encode blank = other.encode blank := by
    apply Subtype.ext
    rw [encode_eq_bytes, encode_eq_bytes, h]
  rw [← header.ofBlock_encode blank, hsame, ofBlock_encode]

/-- The fields of any 48 bytes, written again, are these bytes. -/
theorem encode_ofBlock (raw buffer : Block headerSize) : (ofBlock raw).encode buffer = raw := by
  apply Subtype.ext
  rw [encode_eq_bytes]
  conv => rhs; rw [eq_fields raw]
  simp (disch := decide) only [bytes, ofBlock, word32_field, word64_field]

/-- What is decoded is what the fields say, and valid. -/
theorem decode_eq_ok_iff {raw : Block headerSize} {header : Header} :
    decode raw = .ok header ↔ ofBlock raw = header ∧ header.check? = none := by
  rw [decode]
  cases hcheck : (ofBlock raw).check? with
  | none =>
      constructor
      · rintro ⟨⟩
        exact ⟨rfl, hcheck⟩
      · rintro ⟨rfl, -⟩
        rfl
  | some fault =>
      constructor
      · rintro ⟨⟩
      · rintro ⟨rfl, hnone⟩
        rw [hcheck] at hnone
        cases hnone

/-- No two strings of 48 bytes decode to the same header. -/
theorem eq_of_decode {raw other : Block headerSize} {header : Header} (hraw : decode raw = .ok header)
    (hother : decode other = .ok header) : raw = other := by
  rw [← encode_ofBlock raw blank, ← encode_ofBlock other blank, (decode_eq_ok_iff.mp hraw).1,
    (decode_eq_ok_iff.mp hother).1]

/-- **Encoding and decoding a header are inverse.**  The encoding is the fields in their order,
each in little-endian digits, whatever the buffer held; decoding it gives the header back, or
the rule that the header breaks.  What is decoded is a valid header whose encoding is the very
48 bytes, so that no two of the strings that are accepted decode alike. -/
theorem encode_inverse_decode :
    (∀ (header : Header) (buffer : Block headerSize),
      (header.encode buffer).1 =
        header.magic.1 ++ digits 4 header.version.toNat ++ digits 4 header.flags.toNat ++
          digits 8 header.base.toNat ++ digits 8 header.size.toNat ++
          digits 8 header.reserved.toNat ++ digits 8 header.moduleAddress.toNat) ∧
    (∀ (header : Header) (buffer : Block headerSize),
      decode (header.encode buffer) =
        match header.check? with
        | none => .ok header
        | some fault => .error fault) ∧
    (∀ (raw : Block headerSize) (header : Header), decode raw = .ok header →
      (∀ buffer : Block headerSize, header.encode buffer = raw) ∧ header.check? = none) ∧
    (∀ (raw other : Block headerSize) (header : Header),
      decode raw = .ok header → decode other = .ok header → raw = other) := by
  have hback : ∀ (raw : Block headerSize) (header : Header), decode raw = .ok header →
      (∀ buffer : Block headerSize, header.encode buffer = raw) ∧ header.check? = none := by
    intro raw header hdecode
    obtain ⟨rfl, hcheck⟩ := decode_eq_ok_iff.mp hdecode
    exact ⟨fun buffer => encode_ofBlock raw buffer, hcheck⟩
  refine ⟨?_, ?_, hback, ?_⟩
  · intro header buffer
    simp only [encode_eq_bytes, bytes, word32, word64, encode_eq_digits, List.append_assoc]
  · intro header buffer
    have hfields := header.ofBlock_encode buffer
    cases hcheck : header.check? <;> simp [decode, hfields, hcheck]
  · intro raw other header hraw hother
    rw [← (hback raw header hraw).1 blank, (hback other header hother).1 blank]

end Segment.Header

end ImageLaunch
