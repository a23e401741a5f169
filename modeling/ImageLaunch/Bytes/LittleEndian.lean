import ImageLaunch.Bytes

/-!
# ImageLaunch.Bytes.LittleEndian

Numbers in a fixed count of bytes, least significant byte first.

* `decode_encode` — reading back gives the number modulo `bound width`;
* `encode_decode` — every block of bytes is the encoding of what it reads as.
-/

namespace ImageLaunch.Bytes.LittleEndian

/-- The lowest `width` bytes of a number, least significant first. -/
def encode : (width : Nat) → Nat → Bytes
  | 0, _ => []
  | width + 1, n => UInt8.ofNat n :: encode width (n / 256)

/-- The number whose bytes, least significant first, are given. -/
def decode : Bytes → Nat
  | [] => 0
  | byte :: rest => byte.toNat + 256 * decode rest

/-- How many numbers fit in so many bytes. -/
def bound : (width : Nat) → Nat
  | 0 => 1
  | width + 1 => 256 * bound width

@[simp] theorem length_encode (width n : Nat) : (encode width n).length = width := by
  induction width generalizing n with
  | zero => rfl
  | succ width ih => simp [encode, ih]

theorem decode_encode (width n : Nat) : decode (encode width n) = n % bound width := by
  induction width generalizing n with
  | zero => simp [encode, decode, bound, Nat.mod_one]
  | succ width ih =>
    rw [encode, decode, ih, bound, Nat.mod_mul, UInt8.toNat_ofNat']

theorem encode_decode (bytes : Bytes) : encode bytes.length (decode bytes) = bytes := by
  induction bytes with
  | nil => rfl
  | cons byte rest ih =>
    have low : UInt8.ofNat (byte.toNat + 256 * decode rest) = byte := by
      apply UInt8.toNat_inj.mp
      have := byte.toNat_lt
      rw [UInt8.toNat_ofNat']
      omega
    have high : (byte.toNat + 256 * decode rest) / 256 = decode rest := by
      have := byte.toNat_lt
      omega
    rw [List.length_cons, decode, encode, low, high, ih]

theorem decode_lt (bytes : Bytes) : decode bytes < bound bytes.length := by
  induction bytes with
  | nil => simp [decode, bound]
  | cons byte rest ih =>
    have := byte.toNat_lt
    rw [decode, List.length_cons, bound]
    omega

theorem bound_four : bound 4 = UInt32.size := rfl

theorem bound_eight : bound 8 = UInt64.size := rfl

/-- A 32-bit word in four bytes. -/
def word32 (word : UInt32) : Bytes := encode 4 word.toNat

/-- A 64-bit word in eight bytes. -/
def word64 (word : UInt64) : Bytes := encode 8 word.toNat

/-- The 32-bit word held by four bytes. -/
def readWord32 (bytes : Bytes) : UInt32 := UInt32.ofNat (decode bytes)

/-- The 64-bit word held by eight bytes. -/
def readWord64 (bytes : Bytes) : UInt64 := UInt64.ofNat (decode bytes)

@[simp] theorem length_word32 (word : UInt32) : (word32 word).length = 4 := length_encode _ _

@[simp] theorem length_word64 (word : UInt64) : (word64 word).length = 8 := length_encode _ _

@[simp] theorem readWord32_word32 (word : UInt32) : readWord32 (word32 word) = word := by
  apply UInt32.toNat_inj.mp
  rw [readWord32, word32, decode_encode, bound_four, UInt32.toNat_ofNat',
    Nat.mod_eq_of_lt word.toNat_lt_size, Nat.mod_eq_of_lt word.toNat_lt]

@[simp] theorem readWord64_word64 (word : UInt64) : readWord64 (word64 word) = word := by
  apply UInt64.toNat_inj.mp
  rw [readWord64, word64, decode_encode, bound_eight, UInt64.toNat_ofNat',
    Nat.mod_eq_of_lt word.toNat_lt_size, Nat.mod_eq_of_lt word.toNat_lt]

theorem word32_readWord32 {bytes : Bytes} (h : bytes.length = 4) :
    word32 (readWord32 bytes) = bytes := by
  have lt := decode_lt bytes
  rw [h, bound_four] at lt
  rw [readWord32, word32, UInt32.toNat_ofNat_of_lt' lt, ← h, encode_decode]

theorem word64_readWord64 {bytes : Bytes} (h : bytes.length = 8) :
    word64 (readWord64 bytes) = bytes := by
  have lt := decode_lt bytes
  rw [h, bound_eight] at lt
  rw [readWord64, word64, UInt64.toNat_ofNat_of_lt' lt, ← h, encode_decode]

end ImageLaunch.Bytes.LittleEndian
