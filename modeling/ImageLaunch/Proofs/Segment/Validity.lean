import ImageLaunch.Segment.Header
import ImageLaunch.Proofs.Word.Align

/-!
# ImageLaunch.Proofs.Segment.Validity

The rules of a header, checked on words, say what they would say among all numbers.

* `check?_eq_fault?` — the first rule broken is the same in both arithmetics;
* `Reached` — what the rules before it leave for the last rule, whose two sums are plain ones;
* `validity_unbounded` — both, with what a valid header promises about its quantities.
-/

namespace ImageLaunch.Segment.Header

open Word

/-! ## The rules among all numbers -/

/-- Bytes of the whole pages that host the segment, among all numbers. -/
def wholePages (header : Header) : Nat := roundUp header.reserved.toNat 4096

/-- The first rule that the header breaks, with every sum taken among all numbers. -/
def fault? (header : Header) : Option Fault :=
  if header.magic ≠ Segment.magic then some .invalidMagic
  else if header.version.toNat ≠ 1 then some .invalidVersion
  else if header.size.toNat < 48 then some .tooSmall
  else if header.reserved.toNat < header.size.toNat then some .reservationTooSmall
  else if ¬ 4096 ∣ header.base.toNat then some .misalignedBase
  else if 2 ^ 64 ≤ header.base.toNat + header.wholePages then some .addressOverflow
  else if ¬ (header.base.toNat + 48 ≤ header.moduleAddress.toNat ∧
      header.moduleAddress.toNat < header.base.toNat + header.size.toNat) then
    some .moduleOutOfBounds
  else none

/-- The end of the reservation is no address exactly when it lies past the top, or at it. -/
theorem reservationEnd?_isNone_iff (header : Header) :
    header.reservationEnd?.isNone = true ↔ 2 ^ 64 ≤ header.base.toNat + header.wholePages := by
  have hround := roundUp_page_lt_iff header.reserved.toNat
  rw [Option.isNone_iff_eq_none, reservationEnd?]
  by_cases hfits : header.reserved.toNat + 4095 < 2 ^ 64
  · have hpadded : add? header.reserved (pageSize - 1) = some (header.reserved + (pageSize - 1)) :=
      if_pos hfits
    have hpages : (pageAlign header.reserved).toNat = header.wholePages := by
      rw [toNat_pageAlign, if_pos (hround.mpr hfits), wholePages]
    rw [hpadded, ← hpages]
    exact add?_eq_none_iff
  · have hnone : add? header.reserved (pageSize - 1) = none := if_neg hfits
    have hlarge : 2 ^ 64 ≤ header.wholePages := Nat.le_of_not_lt (mt hround.mp hfits)
    rw [hnone]
    simp only [bind, Option.bind, true_iff]
    omega

/-- What the rules before it leave for the last rule. -/
structure Reached (header : Header) : Prop where
  large : 48 ≤ header.size.toNat
  reserved : header.size.toNat ≤ header.reserved.toNat
  fits : header.base.toNat + header.wholePages < 2 ^ 64

/-- Whole pages hold what is reserved. -/
theorem reserved_le_wholePages (header : Header) : header.reserved.toNat ≤ header.wholePages :=
  le_roundUp _ (by decide)

/-- The plain sums of the last rule do not wrap. -/
theorem Reached.toNat_first {header : Header} (h : header.Reached) :
    (header.base + UInt64.ofNat headerSize).toNat = header.base.toNat + 48 := by
  have hpages := header.reserved_le_wholePages
  obtain ⟨hlarge, hreserved, hfits⟩ := h
  rw [UInt64.toNat_add]
  exact Nat.mod_eq_of_lt (by simp [headerSize]; omega)

theorem Reached.toNat_end {header : Header} (h : header.Reached) :
    (header.base + header.size).toNat = header.base.toNat + header.size.toNat := by
  have hpages := header.reserved_le_wholePages
  obtain ⟨hlarge, hreserved, hfits⟩ := h
  rw [UInt64.toNat_add]
  exact Nat.mod_eq_of_lt (by omega)

/-- Checked on words or among all numbers, the first rule that is broken is the same. -/
theorem check?_eq_fault? (header : Header) : header.check? = header.fault? := by
  rw [check?, fault?]
  refine ite_congr rfl (fun _ => rfl) fun hmagic => ?_
  refine ite_congr (by rw [ne_eq, ← UInt32.toNat_inj]; rfl) (fun _ => rfl) fun hversion => ?_
  refine ite_congr (propext UInt64.lt_iff_toNat_lt) (fun _ => rfl) fun hlarge => ?_
  refine ite_congr (propext UInt64.lt_iff_toNat_lt) (fun _ => rfl) fun hreserved => ?_
  refine ite_congr (by rw [ne_eq, eq_comm (a := header.base), pageAlign_eq_self_iff])
    (fun _ => rfl) fun haligned => ?_
  refine ite_congr (propext header.reservationEnd?_isNone_iff) (fun _ => rfl) fun hfits => ?_
  have hreached : header.Reached :=
    ⟨Nat.le_of_not_lt hlarge, Nat.le_of_not_lt hreserved, Nat.lt_of_not_le hfits⟩
  refine ite_congr (propext ?_) (fun _ => rfl) fun _ => rfl
  rw [UInt64.lt_iff_toNat_lt, UInt64.le_iff_toNat_le, hreached.toNat_first, hreached.toNat_end]
  omega

/-- The last rule decides only where those before it are kept. -/
theorem reached_of_check? {header : Header}
    (h : header.check? = none ∨ header.check? = some .moduleOutOfBounds) : header.Reached := by
  rw [check?_eq_fault?, fault?] at h
  split_ifs at h with hmagic hversion hlarge hreserved haligned hfits
  -- every rule before the last one names a fault of its own
  any_goals simp at h
  all_goals exact ⟨Nat.le_of_not_lt hlarge, Nat.le_of_not_lt hreserved, Nat.lt_of_not_le hfits⟩

/-! ## Valid headers -/

/-- The module object of a valid header lies in the segment, behind the header. -/
theorem Valid.module_mem {header : Header} (h : header.Valid) :
    header.base.toNat + 48 ≤ header.moduleAddress.toNat ∧
      header.moduleAddress.toNat < header.base.toNat + header.size.toNat := by
  rw [Valid, check?_eq_fault?, fault?] at h
  split_ifs at h with hmagic hversion hlarge hreserved haligned hfits hmodule
  exact hmodule

theorem Valid.reached {header : Header} (h : header.Valid) : header.Reached :=
  reached_of_check? (.inl h)

/-- A valid header stands at a page boundary, behind the magic and the version there is. -/
theorem Valid.front {header : Header} (h : header.Valid) :
    header.magic = Segment.magic ∧ header.version = Segment.version ∧
      4096 ∣ header.base.toNat := by
  rw [Valid, check?_eq_fault?, fault?] at h
  split_ifs at h with hmagic hversion hlarge hreserved haligned hfits hmodule
  exact ⟨not_not.mp hmagic, UInt32.toNat_inj.mp (not_not.mp hversion), haligned⟩

/-- The module object takes at least one byte behind the header. -/
theorem Valid.size_gt {header : Header} (h : header.Valid) : 48 < header.size.toNat := by
  have hmodule := h.module_mem
  omega

/-- The offset of the module object is its distance from the base. -/
theorem Valid.toNat_moduleOffset {header : Header} (h : header.Valid) :
    header.base.toNat + header.moduleOffset.toNat = header.moduleAddress.toNat := by
  have hmodule := h.module_mem
  have hle : header.base ≤ header.moduleAddress := UInt64.le_iff_toNat_le.mpr (by omega)
  rw [moduleOffset, UInt64.toNat_sub_of_le _ _ hle]
  omega

/-- What is reserved for a valid header is its whole pages. -/
theorem Valid.toNat_reservation {header : Header} (h : header.Valid) :
    header.reservation.toNat = header.wholePages := by
  have hfits := h.reached.fits
  rw [wholePages] at hfits ⊢
  rw [reservation, toNat_pageAlign, if_pos (by omega)]

/-- **The rules on words are the rules among all numbers.**  The first rule that is broken is
the same, the whole pages being the least multiple of 4096 that holds what is reserved; the two
plain sums of the last rule are words whenever that rule decides; and on a valid header nothing
wraps, neither the rounding nor the end of the reservation nor the offset of the module. -/
theorem validity_unbounded (header : Header) :
    IsLeast {bytes | 4096 ∣ bytes ∧ header.reserved.toNat ≤ bytes} header.wholePages ∧
    header.check? = header.fault? ∧
    (header.check? = none ∨ header.check? = some .moduleOutOfBounds →
      header.base.toNat + 48 < 2 ^ 64 ∧ header.base.toNat + header.size.toNat < 2 ^ 64) ∧
    (header.Valid →
      header.reserved.toNat + 4095 < 2 ^ 64 ∧
      header.reservation.toNat = header.wholePages ∧
      header.size.toNat ≤ header.wholePages ∧
      header.base.toNat + header.reservation.toNat < 2 ^ 64 ∧
      48 ≤ header.moduleOffset.toNat ∧ header.moduleOffset.toNat < header.size.toNat ∧
      header.base.toNat + header.moduleOffset.toNat = header.moduleAddress.toNat) := by
  have hpages := header.reserved_le_wholePages
  refine ⟨roundUp_isLeast _ (by decide), header.check?_eq_fault?, ?_, ?_⟩
  · intro hdecides
    obtain ⟨hlarge, hreserved, hfits⟩ := reached_of_check? hdecides
    omega
  · intro hvalid
    obtain ⟨hlarge, hreserved, hfits⟩ := hvalid.reached
    have hmodule := hvalid.module_mem
    have hoffset := hvalid.toNat_moduleOffset
    have hreservation := hvalid.toNat_reservation
    have hround : header.reserved.toNat + 4095 < 2 ^ 64 :=
      (roundUp_page_lt_iff _).mp (Nat.lt_of_le_of_lt (Nat.le_add_left _ _) hfits)
    rw [hreservation]
    omega

end ImageLaunch.Segment.Header
