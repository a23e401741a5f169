import ImageLaunch.Proofs.Segment.Packing

/-!
# ImageLaunch.Proofs.Segment.Layout

Which layouts a payload can be packed in, with every sum taken among all numbers.

* `layoutFault?` — the first rule that a layout breaks; magic, version and the least size are not
  among them, for a payload's header always keeps those;
* `Reached.module_mem_iff` — an address of the module object that wraps is never in the segment;
* `pack_layout` — what is packed, where, and what is refused for which reason.
-/

namespace ImageLaunch.Segment

open Word

/-- The first rule that the layout of a segment breaks, among all numbers. -/
def layoutFault? (base size reserved offset : Nat) : Option Fault :=
  if reserved < size then some .reservationTooSmall
  else if ¬ 4096 ∣ base then some .misalignedBase
  else if 2 ^ 64 ≤ base + roundUp reserved 4096 then some .addressOverflow
  else if ¬ (48 ≤ offset ∧ offset < size) then some .moduleOutOfBounds
  else none

/-- A layout breaks no rule exactly if it keeps each of them. -/
theorem layoutFault?_eq_none_iff {base size reserved offset : Nat} :
    layoutFault? base size reserved offset = none ↔
      size ≤ reserved ∧ 4096 ∣ base ∧ base + roundUp reserved 4096 < 2 ^ 64 ∧
        48 ≤ offset ∧ offset < size := by
  rw [layoutFault?]
  split_ifs <;> simp only [false_iff, true_iff] <;> omega

/-! ## The module object -/

/-- Where the plain sums do not wrap, the module object lies in the segment exactly if its offset
does: an address that has wrapped lies below the base. -/
theorem Header.Reached.module_mem_iff {header : Header} (h : header.Reached) :
    (header.base.toNat + 48 ≤ header.moduleAddress.toNat ∧
      header.moduleAddress.toNat < header.base.toNat + header.size.toNat) ↔
      48 ≤ header.moduleOffset.toNat ∧ header.moduleOffset.toNat < header.size.toNat := by
  have hpages := header.reserved_le_wholePages
  have hbase := header.base.toNat_lt
  have haddress := header.moduleAddress.toNat_lt
  obtain ⟨hlarge, hreserved, hfits⟩ := h
  have hoffset : header.moduleOffset.toNat =
      (2 ^ 64 - header.base.toNat + header.moduleAddress.toNat) % 2 ^ 64 :=
    UInt64.toNat_sub _ _
  by_cases hbelow : header.moduleAddress.toNat < header.base.toNat
  · have hwrapped : header.moduleOffset.toNat =
        2 ^ 64 - header.base.toNat + header.moduleAddress.toNat := by
      rw [hoffset]
      exact Nat.mod_eq_of_lt (by omega)
    omega
  · have hplain : header.moduleOffset.toNat =
        header.moduleAddress.toNat - header.base.toNat := by omega
    omega

/-! ## The header of a payload -/

variable {payload image : Bytes} {base : UInt64} {reserve moduleOffset : Option UInt64}

/-- The header of a payload breaks the rule that its layout breaks first. -/
theorem check?_headerFor (hfits : headerSize + payload.length < UInt64.size) :
    (headerFor payload base reserve moduleOffset).check? =
      layoutFault? base.toNat (48 + payload.length)
        (reserve.elim (48 + payload.length) UInt64.toNat) (moduleOffset.elim 48 UInt64.toNat) := by
  let header := headerFor payload base reserve moduleOffset
  have hsize : header.size.toNat = 48 + payload.length := toNat_sizeFor hfits
  have hreserved : header.reserved.toNat = reserve.elim (48 + payload.length) UInt64.toNat :=
    toNat_reserved_headerFor hfits
  have hoffset : header.moduleOffset.toNat = moduleOffset.elim 48 UInt64.toNat :=
    toNat_moduleOffset_headerFor
  have hmagic : ¬ header.magic ≠ magic := not_not.mpr rfl
  have hversion : ¬ header.version.toNat ≠ 1 := not_not.mpr rfl
  have hlarge : ¬ header.size.toNat < 48 := by omega
  change header.check? = _
  rw [Header.check?_eq_fault?, Header.fault?, if_neg hmagic, if_neg hversion, if_neg hlarge,
    ← hreserved, ← hsize, ← hoffset, layoutFault?]
  refine ite_congr rfl (fun _ => rfl) fun hsmall => ?_
  refine ite_congr rfl (fun _ => rfl) fun haligned => ?_
  refine ite_congr rfl (fun _ => rfl) fun hwraps => ?_
  have hreached : header.Reached :=
    ⟨by omega, Nat.le_of_not_lt hsmall, Nat.lt_of_not_le hwraps⟩
  exact ite_congr (by rw [hreached.module_mem_iff]) (fun _ => rfl) fun _ => rfl

/-- A payload is refused because it is empty, or else for the first rule that its layout
breaks. -/
theorem pack_eq_error_iff (hfits : headerSize + payload.length < UInt64.size)
    {failure : PackFault} :
    pack payload base reserve moduleOffset = .error failure ↔
      (payload = [] ∧ failure = .emptyPayload) ∨
      (payload ≠ [] ∧ ∃ fault,
        layoutFault? base.toNat (48 + payload.length)
          (reserve.elim (48 + payload.length) UInt64.toNat)
          (moduleOffset.elim 48 UInt64.toNat) = some fault ∧
        failure = .layout (sizeFor payload) (reserve.getD (sizeFor payload)) fault) := by
  rw [pack, ← check?_headerFor hfits]
  by_cases hempty : payload = []
  · simp [hempty, eq_comm]
  · rw [if_neg hempty]
    simp only [hempty, false_and, ne_eq, not_false_eq_true, true_and, false_or]
    cases hcheck : (headerFor payload base reserve moduleOffset).check? with
    | none => simp
    | some fault =>
        simp only [Except.error.injEq, Option.some.injEq, exists_eq_left']
        exact eq_comm

/-- An image that is laid out with the given quantities: the encoding of a header that has them,
with the payload behind it. -/
structure LaidOut (payload : Bytes) (base : UInt64) (reserved offset : Nat) (image : Bytes)
    (header : Header) : Prop where
  image_eq : ∀ buffer, image = (header.encode buffer).1 ++ payload
  magic_eq : header.magic = Segment.magic
  version_eq : header.version = 1
  flags_eq : header.flags = 0
  base_eq : header.base = base
  size_eq : header.size.toNat = 48 + payload.length
  reserved_eq : header.reserved.toNat = reserved
  moduleAddress_eq : header.moduleAddress.toNat = base.toNat + offset

/-- What is packed is laid out as was asked for; the address of the module object has not
wrapped. -/
theorem laidOut_of_pack (hfits : headerSize + payload.length < UInt64.size)
    (h : pack payload base reserve moduleOffset = .ok image) :
    LaidOut payload base (reserve.elim (48 + payload.length) UInt64.toNat)
      (moduleOffset.elim 48 UInt64.toNat) image
      (headerFor payload base reserve moduleOffset) := by
  obtain ⟨-, hvalid, himage⟩ := pack_eq_ok_iff.mp h
  constructor
  case image_eq =>
    intro buffer
    rw [Header.encode_eq_bytes, himage]
  case magic_eq => rfl
  case version_eq => rfl
  case flags_eq => rfl
  case base_eq => rfl
  case size_eq => exact toNat_sizeFor hfits
  case reserved_eq => exact toNat_reserved_headerFor hfits
  case moduleAddress_eq =>
    rw [← hvalid.toNat_moduleOffset, toNat_moduleOffset_headerFor]
    rfl

/-- **What can be packed, and how it is laid out.**  With a reservation of the size and a module
object behind the header unless something else is asked for, a payload that memory holds together
with its header is packed exactly if it is not empty and its layout keeps every rule among all
numbers; the image then has these quantities.  Anything else is refused, an empty payload for
being empty and a layout for the first rule that it breaks.  So an offset that leads past the
address space is never accepted. -/
theorem pack_layout (hfits : headerSize + payload.length < UInt64.size) :
    let size := 48 + payload.length
    let reserved := reserve.elim size UInt64.toNat
    let offset := moduleOffset.elim 48 UInt64.toNat
    let pages := roundUp reserved 4096
    IsLeast {bytes | 4096 ∣ bytes ∧ reserved ≤ bytes} pages ∧
    ((∃ image, pack payload base reserve moduleOffset = .ok image) ↔
      payload ≠ [] ∧ size ≤ reserved ∧ 4096 ∣ base.toNat ∧ base.toNat + pages < 2 ^ 64 ∧
        48 ≤ offset ∧ offset < size) ∧
    (∀ image, pack payload base reserve moduleOffset = .ok image →
      ∃ header, LaidOut payload base reserved offset image header) ∧
    (∀ failure, pack payload base reserve moduleOffset = .error failure ↔
      (payload = [] ∧ failure = .emptyPayload) ∨
      (payload ≠ [] ∧ ∃ fault, layoutFault? base.toNat size reserved offset = some fault ∧
        failure = .layout (sizeFor payload) (reserve.getD (sizeFor payload)) fault)) ∧
    (2 ^ 64 ≤ base.toNat + offset →
      ∀ image, pack payload base reserve moduleOffset ≠ .ok image) := by
  intro size reserved offset pages
  refine ⟨roundUp_isLeast _ (by decide), ?_, ?_, fun _ => pack_eq_error_iff hfits, ?_⟩
  · have hrules : (headerFor payload base reserve moduleOffset).Valid ↔
        layoutFault? base.toNat size reserved offset = none := by
      rw [Header.Valid, check?_headerFor hfits]
    simp only [pack_eq_ok_iff, hrules, layoutFault?_eq_none_iff, exists_and_left, exists_eq,
      and_true]
    rfl
  · intro image hpack
    exact ⟨_, laidOut_of_pack hfits hpack⟩
  · intro hwraps image hpack
    have haddress := (laidOut_of_pack hfits hpack).moduleAddress_eq
    have hword := (headerFor payload base reserve moduleOffset).moduleAddress.toNat_lt
    omega

/-- An offset whose address wraps into the segment is refused where the default one is packed. -/
theorem pack_layout_wrapping :
    let payload : Bytes := [0xF4]
    let base : UInt64 := 0xFFFFFFFFFFFFE000
    headerSize + payload.length < UInt64.size ∧
      pack payload base (some 4096) (some 0x2030) =
        .error (.layout 49 4096 .moduleOutOfBounds) ∧
      ∃ image, pack payload base (some 4096) none = .ok image := by
  intro payload base
  have hfits : headerSize + payload.length < UInt64.size := by decide
  obtain ⟨-, -, -, hrefused, -⟩ := @pack_layout payload base (some 4096) (some 0x2030) hfits
  obtain ⟨-, haccepted, -⟩ := @pack_layout payload base (some 4096) none hfits
  exact ⟨hfits, (hrefused _).mpr (.inr ⟨by decide, .moduleOutOfBounds, by decide, rfl⟩),
    haccepted.mpr (by decide)⟩

end ImageLaunch.Segment
