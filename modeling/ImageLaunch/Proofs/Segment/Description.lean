import ImageLaunch.Segment.Image
import ImageLaunch.Proofs.Numeral.Reading

/-!
# ImageLaunch.Proofs.Segment.Description

A header in words says what the header holds.  The description is a row of written numbers with
a gap behind each: some words that are no numbers, set off from the number in front of them and
from the one that follows.  So the numbers among the words are those that were written, in
their order (`numbersIn_describe`), and two headers with the same description agree on every
quantity that is shown (`describe_faithful`).
-/

namespace ImageLaunch.Segment.Header

open Numeral

/-! ## Numbers with gaps between them -/

/-- Words without a number among them, with a break at either end. -/
def IsGap (gap : String) : Prop :=
  ∃ first words last, gap.toList = first :: (words ++ [last]) ∧ isBreak first ∧ isBreak last ∧
    numbersIn words = []

/-- The numbers on either side of a gap are kept apart. -/
theorem IsGap.numbersIn_eq {gap : String} (h : IsGap gap) (front rest : List Char) :
    numbersIn (front ++ (gap.toList ++ rest)) = numbersIn front ++ numbersIn rest := by
  obtain ⟨first, words, last, hgap, hfirst, hlast, hnone⟩ := h
  rw [hgap, List.cons_append, List.append_assoc, List.singleton_append,
    numbersIn_append_break hfirst, numbersIn_append_break hlast, hnone, List.nil_append]

/-- A number in writing, and the gap behind it. -/
structure Item where
  value : UInt64
  written : String
  gap : String
  numbersIn_written : numbersIn written.toList = [value]
  isGap : IsGap gap

namespace Item

/-- A number in decimal. -/
def ofDecimal (value : UInt64) (gap : String) (h : IsGap gap) : Item :=
  ⟨value, decimal value.toNat, gap, numbersIn_decimal value, h⟩

/-- A number in hexadecimal. -/
def ofHexadecimal (value : UInt64) (gap : String) (h : IsGap gap) : Item :=
  ⟨value, hexadecimal value.toNat, gap, numbersIn_hexadecimal value, h⟩

/-- The number and its gap. -/
def text (item : Item) : List Char := item.written.toList ++ item.gap.toList

/-- The numbers in a row of items are their values. -/
theorem numbersIn_flatMap (items : List Item) :
    numbersIn (items.flatMap text) = items.map value := by
  induction items with
  | nil => rfl
  | cons item items ih =>
      rw [List.flatMap_cons, text, List.append_assoc, item.isGap.numbersIn_eq,
        item.numbersIn_written, ih, List.map_cons, List.singleton_append]

end Item

/-! ## The description -/

/-- The quantities that are shown, in their order. -/
def shown (header : Header) : List UInt64 :=
  [header.version.toUInt64, header.base, header.size, header.reserved,
    Word.pageAlign header.reserved, header.moduleAddress, header.moduleAddress - header.base]

/-- What the description is made of behind its first words. -/
def items (header : Header) : List Item :=
  [.ofDecimal header.version.toUInt64 "\nbase      "
      ⟨'\n', "base     ".toList, ' ', rfl, rfl, rfl, rfl⟩,
    .ofHexadecimal header.base "\nsize      "
      ⟨'\n', "size     ".toList, ' ', rfl, rfl, rfl, rfl⟩,
    .ofDecimal header.size " bytes\nreserved  "
      ⟨' ', "bytes\nreserved ".toList, ' ', rfl, rfl, rfl, rfl⟩,
    .ofDecimal header.reserved " bytes ("
      ⟨' ', "bytes ".toList, '(', rfl, rfl, rfl, rfl⟩,
    .ofDecimal header.reservation " mapped)\nmodule    "
      ⟨' ', "mapped)\nmodule   ".toList, ' ', rfl, rfl, rfl, rfl⟩,
    .ofHexadecimal header.moduleAddress " (+"
      ⟨' ', ['('], '+', rfl, rfl, rfl, rfl⟩,
    .ofHexadecimal header.moduleOffset ")\n"
      ⟨')', [], '\n', rfl, rfl, rfl, rfl⟩]

/-- The description is its first words and the items. -/
theorem toList_describe (header : Header) :
    header.describe.toList = "version   ".toList ++ header.items.flatMap Item.text := by
  have hbytes : " bytes\nreserved  ".toList = " bytes".toList ++ "\nreserved  ".toList := rfl
  have hmapped : " mapped)\nmodule    ".toList = " mapped)".toList ++ "\nmodule    ".toList := rfl
  unfold describe items
  simp only [Item.text, Item.ofDecimal, Item.ofHexadecimal, UInt32.toNat_toUInt64, hbytes, hmapped,
    String.toList_append, List.flatMap_cons, List.flatMap_nil, List.append_nil, List.append_assoc]

/-- The numbers in the description are the quantities that are shown. -/
theorem numbersIn_describe (header : Header) :
    numbersIn header.describe.toList = header.shown := by
  have hfirst : "version   ".toList = "version  ".toList ++ [' '] := rfl
  have hnone : numbersIn "version  ".toList = [] := rfl
  rw [toList_describe, hfirst, List.append_assoc, List.singleton_append,
    numbersIn_append_break rfl, hnone, Item.numbersIn_flatMap]
  rfl

/-- **The description of a header is faithful.**  The numbers in it are the version, the base,
the size, what is reserved, the whole pages of that, the module object's address and its
distance from the base, wrapped like every difference of words.  Each of them is in a form that
reads back as the word it was written for, whatever underscores are put in.  So two headers have
one description exactly if they agree on everything but the magic and the flags. -/
theorem describe_faithful (header other : Header) :
    numbersIn header.describe.toList = header.shown ∧
    (∀ (n : UInt64) (text : String),
      Underscored (decimal n.toNat).toList text.toList ∨
        Underscored (hexadecimal n.toNat).toList text.toList → parse text = .ok n) ∧
    (header.describe = other.describe ↔
      header.version = other.version ∧ header.base = other.base ∧ header.size = other.size ∧
        header.reserved = other.reserved ∧ header.moduleAddress = other.moduleAddress) := by
  refine ⟨header.numbersIn_describe, ?_, ?_, ?_⟩
  · rintro n text (hspaced | hspaced)
    · exact parse_underscored hspaced (read_decimal n)
    · exact parse_underscored hspaced (read_hexadecimal n)
  · intro hsame
    have hshown : header.shown = other.shown := by
      rw [← numbersIn_describe, hsame, numbersIn_describe]
    simp only [shown, List.cons.injEq] at hshown
    obtain ⟨hversion, hbase, hsize, hreserved, -, hmodule, -⟩ := hshown
    exact ⟨UInt32.toUInt64_inj.mp hversion, hbase, hsize, hreserved, hmodule⟩
  · rintro ⟨hversion, hbase, hsize, hreserved, hmodule⟩
    unfold describe reservation moduleOffset
    rw [hversion, hbase, hsize, hreserved, hmodule]

/-- Underscores in front of a mark, inside it and between the digits. -/
theorem describe_faithful_split_mark :
    Underscored (hexadecimal (255 : UInt64).toNat).toList "_0_xf__f".toList ∧
      parse "_0_xf__f" = .ok 255 := by
  have hspaced : Underscored (hexadecimal (255 : UInt64).toNat).toList "_0_xf__f".toList :=
    .insert (.keep '0' (.insert (.keep 'x' (.keep 'f' (.insert (.insert (.keep 'f' .nil)))))))
  obtain ⟨-, hread, -⟩ := describe_faithful (ofLayout 0 49 49 48) (ofLayout 0 49 49 48)
  exact ⟨hspaced, hread 255 "_0_xf__f" (.inr hspaced)⟩

/-- A header that breaks the rules is shown, too, with what wraps in it. -/
example : describe ⟨Segment.magic, 2, 0, 0x1001, 0, 0xFFFFFFFFFFFFFFFF, 0⟩ =
    "version   2\nbase      0x1001\nsize      0 bytes\n" ++
      "reserved  18446744073709551615 bytes (0 mapped)\n" ++
      "module    0x0 (+0xffffffffffffefff)\n" := by
  decide

end ImageLaunch.Segment.Header
