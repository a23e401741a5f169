import Mathlib
import ImageLaunch.Text.Utf8

/-!
# ImageLaunch.Proofs.Text.Utf8

Reading UTF-8 is the inverse of writing it.

* `Spelled` — the bytes of a character by the table of the encoding; they are the bytes that are
  written (`spelled_encode`) and the bytes that are cut off as that character
  (`pieces_append_of_spelled`);
* `Partial.Sound` — a character under way is spelled by the bytes seen and any that may still
  come; it holds of every start and is kept byte by byte, so whatever is cut off as a character
  spells it (`sound_of_mem_pieces`);
* `decode?_eq_some_iff` — a byte string reads as a text exactly if it is the encoding of it.
-/

namespace ImageLaunch.Text.Utf8

open String (utf8EncodeChar)

/-! ## The table of the encoding -/

/-- A byte that goes on with a character. -/
def Continues (byte : UInt8) : Prop := 0x80 ≤ byte.toNat ∧ byte.toNat ≤ 0xBF

/-- A second byte of three: no shorter spelling, and no surrogate. -/
def SecondOfThree (first byte : UInt8) : Prop :=
  Continues byte ∧ 0x20 ≤ first.toNat % 16 * 64 + byte.toNat % 64 ∧
    ¬ (0x360 ≤ first.toNat % 16 * 64 + byte.toNat % 64 ∧
      first.toNat % 16 * 64 + byte.toNat % 64 < 0x380)

/-- A second byte of four: no shorter spelling, and nothing above the last character. -/
def SecondOfFour (first byte : UInt8) : Prop :=
  Continues byte ∧ 0x10 ≤ first.toNat % 8 * 64 + byte.toNat % 64 ∧
    first.toNat % 8 * 64 + byte.toNat % 64 < 0x110

/-- The bytes that spell a character: six bits in each byte but the first. -/
inductive Spelled : Char → Bytes → Prop
  | one {a : UInt8} (ha : a.toNat < 0x80) : Spelled (Char.ofNat a.toNat) [a]
  | two {a b : UInt8} (ha : 0xC2 ≤ a.toNat ∧ a.toNat ≤ 0xDF) (hb : Continues b) :
      Spelled (Char.ofNat (a.toNat % 32 * 64 + b.toNat % 64)) [a, b]
  | three {a b c : UInt8} (ha : 0xE0 ≤ a.toNat ∧ a.toNat ≤ 0xEF) (hb : SecondOfThree a b)
      (hc : Continues c) :
      Spelled (Char.ofNat ((a.toNat % 16 * 64 + b.toNat % 64) * 64 + c.toNat % 64)) [a, b, c]
  | four {a b c d : UInt8} (ha : 0xF0 ≤ a.toNat ∧ a.toNat ≤ 0xF4) (hb : SecondOfFour a b)
      (hc : Continues c) (hd : Continues d) :
      Spelled (Char.ofNat (((a.toNat % 8 * 64 + b.toNat % 64) * 64 + c.toNat % 64) * 64 +
        d.toNat % 64)) [a, b, c, d]

/-- What is written for the character of a number. -/
theorem utf8EncodeChar_ofNat {n : Nat} (h : n.isValidChar) :
    utf8EncodeChar (Char.ofNat n) =
      if n ≤ 127 then [UInt8.ofNat n]
      else if n ≤ 2047 then [UInt8.ofNat (n / 64 % 32 + 192), UInt8.ofNat (n % 64 + 128)]
      else if n ≤ 65535 then
        [UInt8.ofNat (n / 4096 % 16 + 224), UInt8.ofNat (n / 64 % 64 + 128),
          UInt8.ofNat (n % 64 + 128)]
      else
        [UInt8.ofNat (n / 262144 % 8 + 240), UInt8.ofNat (n / 4096 % 64 + 128),
          UInt8.ofNat (n / 64 % 64 + 128), UInt8.ofNat (n % 64 + 128)] := by
  have hval : (Char.ofNat n).val.toNat = n := by
    have := Char.toNat_ofNat n
    rwa [if_pos h] at this
  rw [utf8EncodeChar, hval]

theorem ofNat_eq_of_eq_toNat {n : Nat} (byte : UInt8) (h : n = byte.toNat) :
    UInt8.ofNat n = byte := by
  rw [h, UInt8.ofNat_toNat]

/-- What is spelled is what is written. -/
theorem Spelled.eq_encode {c : Char} {bytes : Bytes} (h : Spelled c bytes) :
    utf8EncodeChar c = bytes := by
  cases h with
  | one ha =>
      rw [utf8EncodeChar_ofNat (by simp only [Nat.isValidChar]; omega), if_pos (by omega),
        UInt8.ofNat_toNat]
  | @two a b ha hb =>
      simp only [Continues] at hb
      rw [utf8EncodeChar_ofNat (by simp only [Nat.isValidChar]; omega), if_neg (by omega),
        if_pos (by omega), ofNat_eq_of_eq_toNat a (by omega),
        ofNat_eq_of_eq_toNat b (by omega)]
  | @three a b c ha hb hc =>
      simp only [SecondOfThree, Continues] at hb hc
      rw [utf8EncodeChar_ofNat (by simp only [Nat.isValidChar]; omega), if_neg (by omega),
        if_neg (by omega), if_pos (by omega), ofNat_eq_of_eq_toNat a (by omega),
        ofNat_eq_of_eq_toNat b (by omega), ofNat_eq_of_eq_toNat c (by omega)]
  | @four a b c d ha hb hc hd =>
      simp only [SecondOfFour, Continues] at hb hc hd
      rw [utf8EncodeChar_ofNat (by simp only [Nat.isValidChar]; omega), if_neg (by omega),
        if_neg (by omega), if_neg (by omega), ofNat_eq_of_eq_toNat a (by omega),
        ofNat_eq_of_eq_toNat b (by omega), ofNat_eq_of_eq_toNat c (by omega),
        ofNat_eq_of_eq_toNat d (by omega)]

/-- What is written for a character spells it. -/
theorem spelled_encode (c : Char) : Spelled c (utf8EncodeChar c) := by
  have hvalid : c.toNat.isValidChar := c.valid
  have hbyte : ∀ n < 256, (UInt8.ofNat n).toNat = n := fun n h => UInt8.toNat_ofNat_of_lt' h
  rw [← Char.ofNat_toNat c, utf8EncodeChar_ofNat hvalid]
  simp only [Nat.isValidChar] at hvalid
  split_ifs with hone htwo hthree
  · have h := Spelled.one (a := UInt8.ofNat c.toNat) (by rw [hbyte _ (by omega)]; omega)
    rwa [hbyte _ (by omega)] at h
  · have ha := hbyte (c.toNat / 64 % 32 + 192) (by omega)
    have hb := hbyte (c.toNat % 64 + 128) (by omega)
    have h := Spelled.two (a := UInt8.ofNat (c.toNat / 64 % 32 + 192))
      (b := UInt8.ofNat (c.toNat % 64 + 128)) (by omega) (by simp only [Continues]; omega)
    rwa [ha, hb, show (c.toNat / 64 % 32 + 192) % 32 * 64 + (c.toNat % 64 + 128) % 64 = c.toNat by
      omega] at h
  · have ha := hbyte (c.toNat / 4096 % 16 + 224) (by omega)
    have hb := hbyte (c.toNat / 64 % 64 + 128) (by omega)
    have hc := hbyte (c.toNat % 64 + 128) (by omega)
    have h := Spelled.three (a := UInt8.ofNat (c.toNat / 4096 % 16 + 224))
      (b := UInt8.ofNat (c.toNat / 64 % 64 + 128)) (c := UInt8.ofNat (c.toNat % 64 + 128))
      (by omega) (by simp only [SecondOfThree, Continues, ha, hb]; omega)
      (by simp only [Continues]; omega)
    rw [ha, hb, hc] at h
    convert h using 2
    omega
  · have ha := hbyte (c.toNat / 262144 % 8 + 240) (by omega)
    have hb := hbyte (c.toNat / 4096 % 64 + 128) (by omega)
    have hc := hbyte (c.toNat / 64 % 64 + 128) (by omega)
    have hd := hbyte (c.toNat % 64 + 128) (by omega)
    have h := Spelled.four (a := UInt8.ofNat (c.toNat / 262144 % 8 + 240))
      (b := UInt8.ofNat (c.toNat / 4096 % 64 + 128)) (c := UInt8.ofNat (c.toNat / 64 % 64 + 128))
      (d := UInt8.ofNat (c.toNat % 64 + 128))
      (by omega) (by simp only [SecondOfFour, Continues, ha, hb]; omega)
      (by simp only [Continues]; omega) (by simp only [Continues]; omega)
    rw [ha, hb, hc, hd] at h
    convert h using 2
    omega

/-! ## Starts -/

theorem start?_two {byte : UInt8} (h : 0xC2 ≤ byte.toNat ∧ byte.toNat ≤ 0xDF) :
    start? byte = some ⟨[byte], byte.toNat % 32, 1, 0x80, 0xBF⟩ :=
  if_pos h

theorem start?_three {byte : UInt8} (h : 0xE0 ≤ byte.toNat ∧ byte.toNat ≤ 0xEF) :
    ∃ low high, start? byte = some ⟨[byte], byte.toNat % 16, 2, low, high⟩ ∧
      ∀ next, low ≤ next ∧ next ≤ high ↔ SecondOfThree byte next := by
  simp only [start?, SecondOfThree, Continues, UInt8.le_iff_toNat_le]
  rw [if_neg (by omega)]
  by_cases hE0 : byte.toNat = 0xE0
  · refine ⟨0xA0, 0xBF, by simp [hE0], fun next => ?_⟩
    simp only [UInt8.reduceToNat]
    omega
  · rw [if_neg hE0]
    by_cases hED : byte.toNat = 0xED
    · refine ⟨0x80, 0x9F, by simp [hED], fun next => ?_⟩
      simp only [UInt8.reduceToNat]
      omega
    · refine ⟨0x80, 0xBF, by rw [if_neg hED, if_pos (by omega)], fun next => ?_⟩
      simp only [UInt8.reduceToNat]
      omega

theorem start?_four {byte : UInt8} (h : 0xF0 ≤ byte.toNat ∧ byte.toNat ≤ 0xF4) :
    ∃ low high, start? byte = some ⟨[byte], byte.toNat % 8, 3, low, high⟩ ∧
      ∀ next, low ≤ next ∧ next ≤ high ↔ SecondOfFour byte next := by
  simp only [start?, SecondOfFour, Continues, UInt8.le_iff_toNat_le]
  rw [if_neg (by omega), if_neg (by omega), if_neg (by omega), if_neg (by omega)]
  by_cases hF0 : byte.toNat = 0xF0
  · refine ⟨0x90, 0xBF, by simp [hF0], fun next => ?_⟩
    simp only [UInt8.reduceToNat]
    omega
  · rw [if_neg hF0]
    by_cases hF4 : byte.toNat = 0xF4
    · refine ⟨0x80, 0x8F, by simp [hF4], fun next => ?_⟩
      simp only [UInt8.reduceToNat]
      omega
    · refine ⟨0x80, 0xBF, by rw [if_pos (by omega)], fun next => ?_⟩
      simp only [UInt8.reduceToNat]
      omega

/-- Only first bytes of the table start a character. -/
theorem first_of_start? {byte : UInt8} {begun : Partial} (h : start? byte = some begun) :
    (0xC2 ≤ byte.toNat ∧ byte.toNat ≤ 0xDF) ∨ (0xE0 ≤ byte.toNat ∧ byte.toNat ≤ 0xEF) ∨
      (0xF0 ≤ byte.toNat ∧ byte.toNat ≤ 0xF4) := by
  by_contra hnone
  simp only [start?] at h
  split_ifs at h <;> omega

/-! ## Characters under way -/

/-- What further bytes make of the bits of a character. -/
def carried (bits : Nat) (bytes : Bytes) : Nat :=
  bytes.foldl (fun bits byte => bits * 64 + byte.toNat % 64) bits

/-- The bytes seen and any that may still come spell a character. -/
structure Partial.Sound (p : Partial) : Prop where
  owes : 0 < p.owed
  spelled : ∀ byte rest, p.low ≤ byte ∧ byte ≤ p.high → rest.length + 1 = p.owed →
    (∀ next ∈ rest, Continues next) →
    Spelled (Char.ofNat (carried p.bits (byte :: rest))) (p.seen ++ byte :: rest)

theorem continues_iff {byte : UInt8} : (0x80 : UInt8) ≤ byte ∧ byte ≤ 0xBF ↔ Continues byte := by
  simp only [UInt8.le_iff_toNat_le]
  rfl

/-- Every start is sound. -/
theorem start?_sound {byte : UInt8} {begun : Partial} (h : start? byte = some begun) :
    begun.Sound := by
  rcases first_of_start? h with hfirst | hfirst | hfirst
  · rw [start?_two hfirst, Option.some.injEq] at h
    subst h
    refine ⟨Nat.one_pos, fun second rest hsecond hlength _ => ?_⟩
    obtain rfl : rest = [] := List.length_eq_zero_iff.mp (Nat.succ.inj hlength)
    exact .two hfirst (continues_iff.mp hsecond)
  · obtain ⟨low, high, hstart, hrange⟩ := start?_three hfirst
    rw [hstart, Option.some.injEq] at h
    subst h
    refine ⟨Nat.two_pos, fun second rest hsecond hlength hrest => ?_⟩
    obtain ⟨third, rfl⟩ := List.length_eq_one_iff.mp (Nat.succ.inj hlength)
    exact .three hfirst ((hrange second).mp hsecond) (hrest third (by simp))
  · obtain ⟨low, high, hstart, hrange⟩ := start?_four hfirst
    rw [hstart, Option.some.injEq] at h
    subst h
    refine ⟨Nat.succ_pos 2, fun second rest hsecond hlength hrest => ?_⟩
    obtain ⟨third, fourth, rfl⟩ := List.length_eq_two.mp (Nat.succ.inj hlength)
    exact .four hfirst ((hrange second).mp hsecond) (hrest third (by simp))
      (hrest fourth (by simp))

/-- A piece is broken, or it is a character with the bytes that spell it. -/
def Piece.Sound : Piece → Prop
  | .char c spelling => Spelled c spelling
  | .broken _ => True

/-- Nothing is under way, or something sound. -/
def Begun (pending : Option Partial) : Prop := ∀ p ∈ pending, p.Sound

theorem begun_none : Begun none := fun _ hmem => nomatch hmem

theorem fresh_sound (byte : UInt8) :
    (∀ piece ∈ (fresh byte).1, piece.Sound) ∧ Begun (fresh byte).2 := by
  rw [fresh]
  split
  · rename_i hascii
    refine ⟨fun piece hmem => ?_, begun_none⟩
    rw [List.mem_singleton.mp hmem]
    exact .one hascii
  · split
    · rename_i begun hstart
      refine ⟨fun piece hmem => absurd hmem List.not_mem_nil, fun p hmem => ?_⟩
      cases hmem
      exact start?_sound hstart
    · refine ⟨fun piece hmem => ?_, begun_none⟩
      rw [List.mem_singleton.mp hmem]
      trivial

/-- A byte leaves what is cut off and what is under way sound. -/
theorem feed_sound {pending : Option Partial} (h : Begun pending) (byte : UInt8) :
    (∀ piece ∈ (feed pending byte).1, piece.Sound) ∧ Begun (feed pending byte).2 := by
  cases pending with
  | none => exact fresh_sound byte
  | some p =>
      obtain ⟨howes, hspelled⟩ := h p rfl
      simp only [feed]
      split
      · rename_i hrange
        split
        · rename_i hlast
          refine ⟨fun piece hmem => ?_, begun_none⟩
          rw [List.mem_singleton.mp hmem]
          exact hspelled byte [] hrange hlast.symm fun _ hmem => absurd hmem List.not_mem_nil
        · rename_i hmore
          refine ⟨fun piece hmem => absurd hmem List.not_mem_nil, fun p' hmem => ?_⟩
          cases hmem
          refine ⟨by simp only; omega, fun second rest hsecond hlength hrest => ?_⟩
          have hall : ∀ next ∈ second :: rest, Continues next :=
            List.forall_mem_cons.mpr ⟨continues_iff.mp hsecond, hrest⟩
          have hnext := hspelled byte (second :: rest) hrange
            (by simp only [List.length_cons] at hlength ⊢; omega) hall
          rw [List.append_assoc]
          exact hnext
      · obtain ⟨hpieces, hbegun⟩ := fresh_sound byte
        exact ⟨List.forall_mem_cons.mpr ⟨trivial, hpieces⟩, hbegun⟩

theorem piecesFrom_cons (pending : Option Partial) (byte : UInt8) (rest : Bytes) :
    piecesFrom pending (byte :: rest) =
      (feed pending byte).1 ++ piecesFrom (feed pending byte).2 rest := by
  cases pending <;> rfl

theorem sound_of_mem_piecesFrom {pending : Option Partial} (h : Begun pending) (bytes : Bytes) :
    ∀ piece ∈ piecesFrom pending bytes, piece.Sound := by
  induction bytes generalizing pending with
  | nil =>
      intro piece hmem
      cases pending with
      | none => cases hmem
      | some p =>
          rw [piecesFrom, List.mem_singleton] at hmem
          rw [hmem]
          trivial
  | cons byte rest ih =>
      obtain ⟨hpieces, hbegun⟩ := feed_sound h byte
      intro piece hmem
      rw [piecesFrom_cons, List.mem_append] at hmem
      rcases hmem with hnow | hlater
      · exact hpieces piece hnow
      · exact ih hbegun piece hlater

/-- Whatever is cut off as a character is spelled by its bytes. -/
theorem sound_of_mem_pieces (bytes : Bytes) : ∀ piece ∈ pieces bytes, piece.Sound :=
  sound_of_mem_piecesFrom begun_none bytes

/-! ## Characters cut off -/

/-- A byte in its range that is not the last goes on with the character. -/
theorem feed_of_more {p : Partial} {byte : UInt8} (hrange : p.low ≤ byte ∧ byte ≤ p.high)
    (hmore : p.owed ≠ 1) :
    feed (some p) byte =
      ([], some ⟨p.seen ++ [byte], p.bits * 64 + byte.toNat % 64, p.owed - 1, 0x80, 0xBF⟩) := by
  simp only [feed, if_pos hrange, if_neg hmore]

/-- The last byte ends the character. -/
theorem feed_of_last {p : Partial} {byte : UInt8} (hrange : p.low ≤ byte ∧ byte ≤ p.high)
    (hlast : p.owed = 1) :
    feed (some p) byte =
      ([.char (Char.ofNat (p.bits * 64 + byte.toNat % 64)) (p.seen ++ [byte])], none) := by
  simp only [feed, if_pos hrange, if_pos hlast]

theorem feed_none_of_start {byte : UInt8} {begun : Partial} (hlarge : ¬ byte.toNat < 0x80)
    (hstart : start? byte = some begun) : feed none byte = ([], some begun) := by
  rw [feed, fresh, if_neg hlarge, hstart]

/-- The bytes that spell a character are cut off as that character. -/
theorem pieces_append_of_spelled {c : Char} {spelling : Bytes} (h : Spelled c spelling)
    (rest : Bytes) : pieces (spelling ++ rest) = .char c spelling :: pieces rest := by
  rw [pieces, pieces]
  cases h with
  | one ha =>
      rw [List.singleton_append, piecesFrom_cons, feed, fresh, if_pos ha]
      rfl
  | two ha hb =>
      rw [List.cons_append, List.singleton_append, piecesFrom_cons,
        feed_none_of_start (by omega) (start?_two ha), piecesFrom_cons,
        feed_of_last (continues_iff.mpr hb) rfl]
      rfl
  | three ha hb hc =>
      obtain ⟨low, high, hstart, hrange⟩ := start?_three ha
      rw [List.cons_append, List.cons_append, List.singleton_append, piecesFrom_cons,
        feed_none_of_start (by omega) hstart, piecesFrom_cons,
        feed_of_more ((hrange _).mpr hb) (Nat.succ_succ_ne_one _), piecesFrom_cons,
        feed_of_last (continues_iff.mpr hc) rfl]
      rfl
  | four ha hb hc hd =>
      obtain ⟨low, high, hstart, hrange⟩ := start?_four ha
      rw [List.cons_append, List.cons_append, List.cons_append, List.singleton_append,
        piecesFrom_cons, feed_none_of_start (by omega) hstart, piecesFrom_cons,
        feed_of_more ((hrange _).mpr hb) (Nat.succ_succ_ne_one _), piecesFrom_cons,
        feed_of_more (continues_iff.mpr hc) (Nat.succ_succ_ne_one _), piecesFrom_cons,
        feed_of_last (continues_iff.mpr hd) rfl]
      rfl

/-! ## Whole texts -/

/-- The characters of a text are read back from their bytes. -/
theorem chars?_flatMap_encode (chars : List Char) :
    chars? (chars.flatMap utf8EncodeChar) = some chars := by
  induction chars with
  | nil => rfl
  | cons c chars ih =>
      rw [chars?] at ih
      rw [List.flatMap_cons, chars?, pieces_append_of_spelled (spelled_encode c)]
      simp [ih]

/-- Characters that are read are spelled by the bytes that they are read from. -/
theorem flatMap_encode_of_mapM {cut : List Piece} {chars : List Char}
    (hsound : ∀ piece ∈ cut, piece.Sound)
    (h : (cut.mapM fun
      | .char c _ => some c
      | .broken _ => none) = some chars) :
    chars.flatMap utf8EncodeChar = cut.flatMap Piece.bytes := by
  induction cut generalizing chars with
  | nil =>
      cases h
      rfl
  | cons piece cut ih =>
      obtain ⟨hpiece, hcut⟩ := List.forall_mem_cons.mp hsound
      cases piece with
      | broken bytes => simp at h
      | char c spelling =>
          simp only [List.mapM_cons, Option.bind_eq_bind, Option.bind_some,
            Option.bind_eq_some_iff, Option.pure_def, Option.some.injEq] at h
          obtain ⟨rest, hrest, rfl⟩ := h
          rw [List.flatMap_cons, List.flatMap_cons, ih hcut hrest, Spelled.eq_encode hpiece]
          rfl

/-- **A byte string reads as a text exactly if it is the encoding of that text.** -/
theorem decode?_eq_some_iff {bytes : Bytes} {text : String} :
    decode? bytes = some text ↔ bytes = Bytes.ofString text := by
  rw [decode?, Option.map_eq_some_iff]
  constructor
  · rintro ⟨chars, hchars, rfl⟩
    rw [Bytes.ofString, String.toList_ofList,
      flatMap_encode_of_mapM (sound_of_mem_pieces bytes) hchars, bytes_pieces]
  · rintro rfl
    exact ⟨text.toList, chars?_flatMap_encode text.toList, String.ofList_toList⟩

end ImageLaunch.Text.Utf8
