import Mathlib
import ImageLaunch.Word.Align

/-!
# ImageLaunch.Proofs.Word.Align

Rounding up on words against rounding up on numbers.

`roundUp` is the least multiple that is not below a number.  On words, `align` masks a sum
that may wrap; `toNat_align` says that it gives that multiple whenever it is a word, and zero
otherwise.  Hence a word is its own rounding exactly when it is a multiple
(`align_eq_self_iff`): a value near the top cannot pass for an aligned one by wrapping.
`align_rounds` puts together what rounding does for every power of two and every word.
-/

namespace ImageLaunch.Word

/-! ## Rounding numbers -/

/-- The least multiple of `alignment` that is not below `value`. -/
def roundUp (value alignment : Nat) : Nat := (value + (alignment - 1)) / alignment * alignment

theorem dvd_roundUp (value alignment : Nat) : alignment ∣ roundUp value alignment :=
  Nat.dvd_mul_left _ _

theorem le_roundUp (value : Nat) {alignment : Nat} (h : 0 < alignment) :
    value ≤ roundUp value alignment := by
  have hdiv := Nat.div_add_mod' (value + (alignment - 1)) alignment
  have hmod := Nat.mod_lt (value + (alignment - 1)) h
  rw [roundUp]
  omega

/-- Less than one whole multiple is added. -/
theorem roundUp_lt (value : Nat) {alignment : Nat} (h : 0 < alignment) :
    roundUp value alignment < value + alignment := by
  have hle : roundUp value alignment ≤ value + (alignment - 1) := Nat.div_mul_le_self _ _
  omega

theorem roundUp_le_of_dvd {value alignment multiple : Nat} (h : alignment ∣ multiple)
    (hle : value ≤ multiple) : roundUp value alignment ≤ multiple := by
  obtain ⟨count, rfl⟩ := h
  rcases Nat.eq_zero_or_pos alignment with rfl | hpos
  · simp [roundUp]
  · have hcount : (value + (alignment - 1)) / alignment < count + 1 := by
      rw [Nat.div_lt_iff_lt_mul hpos, Nat.add_mul, Nat.mul_comm count]
      omega
    rw [roundUp, Nat.mul_comm alignment]
    exact Nat.mul_le_mul_right _ (Nat.le_of_lt_succ hcount)

/-- `roundUp` is what its name says. -/
theorem roundUp_isLeast (value : Nat) {alignment : Nat} (h : 0 < alignment) :
    IsLeast {multiple | alignment ∣ multiple ∧ value ≤ multiple} (roundUp value alignment) :=
  ⟨⟨dvd_roundUp value alignment, le_roundUp value h⟩,
    fun _ hmultiple => roundUp_le_of_dvd hmultiple.1 hmultiple.2⟩

theorem roundUp_eq_self_iff {value alignment : Nat} (h : 0 < alignment) :
    roundUp value alignment = value ↔ alignment ∣ value := by
  constructor
  · intro heq
    rw [← heq]
    exact dvd_roundUp value alignment
  · intro hdvd
    exact Nat.le_antisymm (roundUp_le_of_dvd hdvd (Nat.le_refl _)) (le_roundUp value h)

/-- A larger number is not rounded up to a smaller one. -/
theorem roundUp_mono {smaller larger : Nat} (alignment : Nat) (h : smaller ≤ larger) :
    roundUp smaller alignment ≤ roundUp larger alignment :=
  Nat.mul_le_mul_right _ (Nat.div_le_div_right (Nat.add_le_add_right h _))

/-- The multiples of a power of two skip from below `2 ^ 64` to `2 ^ 64` itself, so the
rounding fits exactly when the sum that it starts from fits. -/
theorem roundUp_lt_iff {value k : Nat} (hk : k ≤ 64) :
    roundUp value (2 ^ k) < 2 ^ 64 ↔ value + (2 ^ k - 1) < 2 ^ 64 := by
  have hpos : 0 < 2 ^ k := Nat.two_pow_pos k
  have hdvd : 2 ^ k ∣ 2 ^ 64 := Nat.pow_dvd_pow 2 hk
  constructor
  · intro hlt
    obtain ⟨count, hcount⟩ := hdvd
    obtain ⟨multiple, hmultiple⟩ := dvd_roundUp value (2 ^ k)
    have hle := le_roundUp value hpos
    have hnext : multiple + 1 ≤ count := by
      rw [hmultiple, hcount] at hlt
      exact Nat.lt_of_mul_lt_mul_left hlt
    have := Nat.mul_le_mul_left (2 ^ k) hnext
    rw [Nat.mul_add] at this
    omega
  · intro hlt
    have hle : roundUp value (2 ^ k) ≤ value + (2 ^ k - 1) := Nat.div_mul_le_self _ _
    omega

/-! ## Rounding words -/

/-- Masking the low `k` bits away rounds down to a multiple of `2 ^ k`. -/
theorem toNat_and_not (word mask : UInt64) {k : Nat} (hk : k ≤ 64) (h : mask.toNat = 2 ^ k - 1) :
    (word &&& ~~~mask).toNat = word.toNat / 2 ^ k * 2 ^ k := by
  have hbits : (~~~mask).toNat = 2 ^ 64 - ((2 ^ k - 1) + 1) := by
    rw [UInt64.toNat_not, h, UInt64.size]
    omega
  have hfits : 2 ^ k - 1 < 2 ^ 64 := by
    have := Nat.pow_le_pow_right (by decide : 0 < 2) hk
    have := Nat.two_pow_pos k
    omega
  rw [UInt64.toNat_and, hbits]
  apply Nat.eq_of_testBit_eq
  intro place
  rw [Nat.testBit_and, Nat.testBit_two_pow_sub_succ hfits, Nat.testBit_two_pow_sub_one,
    Nat.testBit_mul_two_pow, Nat.testBit_div_two_pow]
  rcases Nat.lt_or_ge place k with hlow | hhigh
  · simp [hlow, Nat.not_le.mpr hlow]
  · rcases Nat.lt_or_ge place 64 with hword | habove
    · simp [hhigh, hword, Nat.not_lt.mpr hhigh]
    · have hzero : word.toNat.testBit place = false :=
        Nat.testBit_lt_two_pow (Nat.lt_of_lt_of_le word.toNat_lt
          (Nat.pow_le_pow_right (by decide) habove))
      simp [hzero, hhigh]

variable {value alignment : UInt64} {k : Nat}

theorem exponent_lt (h : alignment.toNat = 2 ^ k) : k < 64 := by
  have hlt := alignment.toNat_lt
  rw [h] at hlt
  exact (Nat.pow_lt_pow_iff_right (by decide)).mp hlt

/-- Rounding a word up gives the least multiple if that is a word, and zero if it is not. -/
theorem toNat_align (value : UInt64) (h : alignment.toNat = 2 ^ k) :
    (align value alignment).toNat =
      if roundUp value.toNat alignment.toNat < 2 ^ 64 then roundUp value.toNat alignment.toNat
      else 0 := by
  have hk := Nat.le_of_lt (exponent_lt h)
  have hpos : 0 < 2 ^ k := Nat.two_pow_pos k
  have hvalue := value.toNat_lt
  have halignment := alignment.toNat_lt
  have hmask : (alignment - 1).toNat = 2 ^ k - 1 := by
    rw [UInt64.toNat_sub_of_le _ _ (UInt64.le_iff_toNat_le.mpr (by rw [h]; exact hpos)), h]
    rfl
  rw [align, toNat_and_not _ _ hk hmask, UInt64.toNat_add, hmask, h]
  simp only [roundUp_lt_iff hk]
  by_cases hfits : value.toNat + (2 ^ k - 1) < 2 ^ 64
  · rw [if_pos hfits, Nat.mod_eq_of_lt hfits, roundUp]
  · -- the sum wraps to less than one whole multiple
    have hwrapped : (value.toNat + (2 ^ k - 1)) % 2 ^ 64 < 2 ^ k := by omega
    rw [if_neg hfits, Nat.div_eq_of_lt hwrapped, Nat.zero_mul]

/-- A word is its own rounding exactly when it is a multiple. -/
theorem align_eq_self_iff (h : alignment.toNat = 2 ^ k) :
    align value alignment = value ↔ alignment.toNat ∣ value.toNat := by
  have hpos : 0 < alignment.toNat := by
    rw [h]
    exact Nat.two_pow_pos k
  rw [← UInt64.toNat_inj, toNat_align value h, ← roundUp_eq_self_iff hpos]
  split
  · rfl
  · have hle := le_roundUp value.toNat hpos
    have hvalue := value.toNat_lt
    constructor
    · intro hzero
      rw [roundUp_eq_self_iff hpos, ← hzero]
      exact Nat.dvd_zero _
    · intro heq
      omega

/-- What a word is rounded up to is a multiple, and so is the zero that it wraps to. -/
theorem dvd_align (value : UInt64) (h : alignment.toNat = 2 ^ k) :
    alignment.toNat ∣ (align value alignment).toNat := by
  rw [toNat_align value h]
  split
  · exact dvd_roundUp _ _
  · exact Nat.dvd_zero _

/-- The rounding is a word for all words but those in the last multiple below the top. -/
theorem roundUp_fits_iff (value : UInt64) (h : alignment.toNat = 2 ^ k) :
    roundUp value.toNat alignment.toNat < 2 ^ 64 ↔ value.toNat ≤ 2 ^ 64 - alignment.toNat := by
  have hk := exponent_lt h
  have hpos := Nat.two_pow_pos k
  have hlt := Nat.pow_lt_pow_right (by decide : 1 < 2) hk
  rw [h, roundUp_lt_iff (Nat.le_of_lt hk)]
  omega

/-- Away from the top nothing wraps. -/
theorem toNat_align_of_le (h : alignment.toNat = 2 ^ k)
    (hle : value.toNat ≤ 2 ^ 64 - alignment.toNat) :
    (align value alignment).toNat = roundUp value.toNat alignment.toNat := by
  rw [toNat_align value h, if_pos ((roundUp_fits_iff value h).mpr hle)]

/-- Away from the top a larger word is not rounded up to a smaller one. -/
theorem align_le_align {smaller : UInt64} (h : alignment.toNat = 2 ^ k)
    (hle : value.toNat ≤ 2 ^ 64 - alignment.toNat) (hsmaller : smaller ≤ value) :
    align smaller alignment ≤ align value alignment := by
  rw [UInt64.le_iff_toNat_le] at hsmaller ⊢
  rw [toNat_align_of_le h hle, toNat_align_of_le h (Nat.le_trans hsmaller hle)]
  exact roundUp_mono _ hsmaller

/-- **Rounding up to a power of two, for every word.**  The result is the least multiple among
all numbers if that is a word, and zero otherwise, which is so exactly for the words that come
after the last multiple.  Rounding again changes nothing, and only multiples are left alone.
Up to the last multiple the order is kept, and less than one whole alignment is added. -/
theorem align_rounds {alignment : UInt64} (h : alignment.toNat.isPowerOfTwo) (value : UInt64) :
    IsLeast {multiple | alignment.toNat ∣ multiple ∧ value.toNat ≤ multiple}
      (roundUp value.toNat alignment.toNat) ∧
    (align value alignment).toNat =
      (if roundUp value.toNat alignment.toNat < 2 ^ 64 then roundUp value.toNat alignment.toNat
      else 0) ∧
    (2 ^ 64 ≤ roundUp value.toNat alignment.toNat ↔ 2 ^ 64 - alignment.toNat < value.toNat) ∧
    align (align value alignment) alignment = align value alignment ∧
    (align value alignment = value ↔ alignment.toNat ∣ value.toNat) ∧
    (value.toNat ≤ 2 ^ 64 - alignment.toNat →
      value ≤ align value alignment ∧
      (align value alignment).toNat < value.toNat + alignment.toNat ∧
      ∀ smaller ≤ value, align smaller alignment ≤ align value alignment) := by
  obtain ⟨k, hk⟩ := h
  have hpos : 0 < alignment.toNat := by
    rw [hk]
    exact Nat.two_pow_pos k
  have hwraps : 2 ^ 64 ≤ roundUp value.toNat alignment.toNat ↔
      2 ^ 64 - alignment.toNat < value.toNat := by
    rw [← Nat.not_lt, roundUp_fits_iff value hk, Nat.not_le]
  refine ⟨roundUp_isLeast _ hpos, toNat_align value hk, hwraps,
    (align_eq_self_iff hk).mpr (dvd_align value hk), align_eq_self_iff hk, fun hle => ?_⟩
  have hround := toNat_align_of_le hk hle
  refine ⟨?_, ?_, fun smaller hsmaller => align_le_align hk hle hsmaller⟩
  · rw [UInt64.le_iff_toNat_le, hround]
    exact le_roundUp _ hpos
  · rw [hround]
    exact roundUp_lt _ hpos

/-- A page is left below the top: nothing wraps. -/
theorem align_rounds_at_the_top :
    let alignment : UInt64 := 0x1000
    let value : UInt64 := 0xFFFFFFFFFFFFE001
    alignment.toNat.isPowerOfTwo ∧ value.toNat ≤ 2 ^ 64 - alignment.toNat ∧
      align (align value alignment) alignment = align value alignment ∧
      value ≤ align value alignment ∧
      (align value alignment).toNat < value.toNat + alignment.toNat ∧
      align 0xFFFFFFFFFFFFE000 alignment ≤ align value alignment := by
  intro alignment value
  have hpower : alignment.toNat.isPowerOfTwo := ⟨12, rfl⟩
  have hle : value.toNat ≤ 2 ^ 64 - alignment.toNat := by decide
  obtain ⟨-, -, -, hagain, -, hbelow⟩ := align_rounds hpower value
  obtain ⟨hlarger, hless, hmono⟩ := hbelow hle
  exact ⟨hpower, hle, hagain, hlarger, hless, hmono 0xFFFFFFFFFFFFE000 (by decide)⟩

/-! ## Pages -/

theorem roundUp_page_lt_iff (value : Nat) : roundUp value 4096 < 2 ^ 64 ↔ value + 4095 < 2 ^ 64 :=
  roundUp_lt_iff (k := 12) (by decide)

theorem toNat_pageAlign (value : UInt64) :
    (pageAlign value).toNat =
      if roundUp value.toNat 4096 < 2 ^ 64 then roundUp value.toNat 4096 else 0 :=
  toNat_align (k := 12) value rfl

theorem pageAlign_eq_self_iff : pageAlign value = value ↔ 4096 ∣ value.toNat :=
  align_eq_self_iff (k := 12) rfl

/-- A sum that is not a word is not a number to go on with. -/
theorem add?_eq_none_iff {a b : UInt64} : add? a b = none ↔ 2 ^ 64 ≤ a.toNat + b.toNat := by
  rw [add?]
  split
  · rename_i hfits
    simp only [reduceCtorEq, false_iff]
    exact Nat.not_le_of_lt hfits
  · rename_i hwraps
    simp only [true_iff]
    exact Nat.le_of_not_lt hwraps

end ImageLaunch.Word
