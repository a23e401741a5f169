import ImageLaunch.Numeral

/-!
# ImageLaunch.Proofs.Numeral.Writing

What written numbers look like.

* `hexadecimal_isHexadecimal` — the mark `0x`, then the digits of the number to the base 16,
  lower case and without zeros in front;
* `decimal_injective` — different numbers have different digits.
-/

namespace ImageLaunch.Numeral

/-! ## Hexadecimal -/

/-- The digits to the base 16, each at the place that is its value. -/
def hexDigits : List Char :=
  ['0', '1', '2', '3', '4', '5', '6', '7', '8', '9', 'a', 'b', 'c', 'd', 'e', 'f']

/-- The number that digits to the base 16 make. -/
def hexValue (digits : List Char) : Nat :=
  digits.foldl (fun value c => 16 * value + hexDigits.idxOf c) 0

/-- The text is `0x` and then the digits of the number, with no zero in front of others. -/
def IsHexadecimal (text : String) (n : Nat) : Prop :=
  ∃ digits, text.toList = '0' :: 'x' :: digits ∧ digits ≠ [] ∧ (∀ c ∈ digits, c ∈ hexDigits) ∧
    (digits.head? = some '0' → digits = ['0']) ∧ hexValue digits = n

/-- A digit stands at its value, and only zero is written `0`. -/
theorem digitChar_hex : ∀ value < 16, value.digitChar ∈ hexDigits ∧
    hexDigits.idxOf value.digitChar = value ∧ (value.digitChar = '0' → value = 0) := by
  decide

theorem hexValue_append_singleton (digits : List Char) (c : Char) :
    hexValue (digits ++ [c]) = 16 * hexValue digits + hexDigits.idxOf c := by
  simp [hexValue]

/-- Digits are written the last one after the others. -/
theorem toDigits_induct {base : Nat} (hbase : 1 < base) {P : Nat → List Char → Prop}
    (one : ∀ n < base, P n [n.digitChar])
    (more : ∀ n ≥ base, P (n / base) (Nat.toDigits base (n / base)) →
      P n (Nat.toDigits base (n / base) ++ [(n % base).digitChar])) (n : Nat) :
    P n (Nat.toDigits base n) := by
  induction n using Nat.strongRecOn with
  | ind n ih =>
      rw [Nat.toDigits_eq_if hbase]
      by_cases hlt : n < base
      · rw [if_pos hlt]
        exact one n hlt
      · have hge : base ≤ n := Nat.le_of_not_lt hlt
        rw [if_neg hlt]
        exact more n hge (ih (n / base) (Nat.div_lt_self (by omega) hbase))

/-- To any base up to 16, numbers are written with these digits. -/
theorem mem_hexDigits_of_mem_toDigits {base : Nat} (hlow : 1 < base) (hhigh : base ≤ 16) (n : Nat) :
    ∀ c ∈ Nat.toDigits base n, c ∈ hexDigits := by
  induction n using toDigits_induct hlow with
  | one n hlt => simpa using (digitChar_hex n (by omega)).1
  | more n _ ih =>
      intro c hmem
      have hlt : n % base < base := Nat.mod_lt n (by omega)
      rcases List.mem_append.mp hmem with hfront | hlast
      · exact ih c hfront
      · rw [List.mem_singleton.mp hlast]
        exact (digitChar_hex (n % base) (by omega)).1

theorem hexValue_toDigits (n : Nat) : hexValue (Nat.toDigits 16 n) = n := by
  induction n using toDigits_induct (by decide : 1 < 16) with
  | one n hlt => simpa [hexValue] using (digitChar_hex n hlt).2.1
  | more n _ ih =>
      rw [hexValue_append_singleton, ih, (digitChar_hex (n % 16) (by omega)).2.1,
        Nat.div_add_mod]

/-- A number in front of which a zero is written is zero. -/
theorem eq_zero_of_head?_toDigits (n : Nat) (h : (Nat.toDigits 16 n).head? = some '0') :
    n = 0 := by
  induction n using toDigits_induct (by decide : 1 < 16) with
  | one n hlt => exact (digitChar_hex n hlt).2.2 (by simpa using h)
  | more n hge ih =>
      rw [List.head?_append, Option.or_of_isSome (by simp [Nat.toDigits_ne_nil])] at h
      have := ih h
      omega

/-- A number is written as `hexadecimal` promises. -/
theorem hexadecimal_isHexadecimal (n : Nat) : IsHexadecimal (hexadecimal n) n := by
  refine ⟨Nat.toDigits 16 n, by simp [hexadecimal], Nat.toDigits_ne_nil,
    mem_hexDigits_of_mem_toDigits (by decide) (by decide) n, ?_, hexValue_toDigits n⟩
  intro hzero
  rw [eq_zero_of_head?_toDigits n hzero, Nat.toDigits_zero]

/-! ## Decimal -/

theorem decimal_injective : Function.Injective decimal := by
  intro n m heq
  have hdigits : Nat.toDigits 10 n = Nat.toDigits 10 m := by
    simpa [decimal] using congrArg String.toList heq
  rw [← Nat.ofDigitChars_ten_toDigits (n := n), hdigits, Nat.ofDigitChars_ten_toDigits]

end ImageLaunch.Numeral
