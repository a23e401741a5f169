import ImageLaunch.Proofs.Numeral.Writing

/-!
# ImageLaunch.Proofs.Numeral.Reading

Written numbers are read back.

* `scan_toDigits` — the digits of a word, scanned from the left, give the word;
* `read_decimal`, `read_hexadecimal` — so do its two written forms, the mark included;
* `parse_underscored` — underscores anywhere in a written form do not matter;
* `numbersIn_append_break` — the numbers among the words of a text are found piece by piece.
-/

namespace ImageLaunch.Numeral

variable {radix read n : Nat} {digits rest : List Char}

/-! ## Scanning digits -/

/-- Scanning goes on from what the digits in front have come to. -/
theorem scan_append (h : scan radix read digits = .ok n) :
    scan radix read (digits ++ rest) = scan radix n rest := by
  induction digits generalizing read with
  | nil =>
      cases h
      rfl
  | cons c digits ih =>
      rw [scan] at h
      rw [List.cons_append, scan]
      cases hdigit : digit? radix c with
      | none => simp [hdigit] at h
      | some value =>
          simp only [hdigit] at h ⊢
          by_cases hfits : read * radix + value < UInt64.size
          · rw [if_pos hfits] at h ⊢
            exact ih h
          · simp [if_neg hfits] at h

/-- The character of a digit is read as its value. -/
theorem digit?_digitChar : ∀ radix ≤ 16, ∀ value < radix,
    digit? radix value.digitChar = some value := by
  decide

theorem scan_digitChar (read : Nat) (hradix : radix ≤ 16) {value : Nat} (hvalue : value < radix)
    (hfits : read * radix + value < UInt64.size) :
    scan radix read [value.digitChar] = .ok (read * radix + value) := by
  simp only [scan, digit?_digitChar radix hradix value hvalue, if_pos hfits]

/-- The digits of a number inside the range are scanned without a complaint. -/
theorem scan_toDigits (hlow : 1 < radix) (hhigh : radix ≤ 16) (n : Nat) (h : n < UInt64.size) :
    scan radix 0 (Nat.toDigits radix n) = .ok n := by
  induction n using toDigits_induct hlow with
  | one n hlt => simpa using scan_digitChar 0 hhigh hlt (by simpa using h)
  | more n _ ih =>
      have hparts : n / radix * radix + n % radix = n := Nat.div_add_mod' n radix
      have hfront := ih (Nat.lt_of_le_of_lt (Nat.div_le_self n radix) h)
      rw [scan_append hfront, scan_digitChar _ hhigh (Nat.mod_lt n (by omega)) (by omega), hparts]

/-! ## Reading a text -/

/-- Digits without a sign in front are scanned as they are. -/
theorem readDigits_of_not_mem (hdigits : digits ≠ []) (hsign : '+' ∉ digits) :
    readDigits radix digits = scan radix 0 digits := by
  cases digits with
  | nil => exact absurd rfl hdigits
  | cons c digits =>
      have hc : c ≠ '+' := fun heq => hsign (by simp [heq])
      rw [readDigits] <;> simp [hc]

/-- A character that is no digit does not come among the digits of a number. -/
theorem not_mem_toDigits {c : Char} (hlow : 1 < radix) (hhigh : radix ≤ 16) (hc : c ∉ hexDigits)
    (n : Nat) : c ∉ Nat.toDigits radix n :=
  fun hmem => hc (mem_hexDigits_of_mem_toDigits hlow hhigh n c hmem)

/-- The digits of a word are read as the word. -/
theorem readDigits_toDigits (hlow : 1 < radix) (hhigh : radix ≤ 16) (n : UInt64) :
    readDigits radix (Nat.toDigits radix n.toNat) = .ok n.toNat := by
  rw [readDigits_of_not_mem Nat.toDigits_ne_nil (not_mem_toDigits hlow hhigh (by decide) _)]
  exact scan_toDigits hlow hhigh _ n.toNat_lt_size

/-- Digits hold no separator that could be dropped. -/
theorem filter_toDigits (hlow : 1 < radix) (hhigh : radix ≤ 16) (n : Nat) :
    (Nat.toDigits radix n).filter (· ≠ '_') = Nat.toDigits radix n := by
  rw [List.filter_eq_self]
  intro c hmem
  rw [decide_eq_true_eq]
  rintro rfl
  exact not_mem_toDigits hlow hhigh (by decide) n hmem

/-- A text that announces the digits of a word is read as the word. -/
theorem read_of_radixOf {text : String} {n : UInt64} (hlow : 1 < radix) (hhigh : radix ≤ 16)
    (hannounces : radixOf (text.toList.filter (· ≠ '_')) = (radix, Nat.toDigits radix n.toNat)) :
    Numeral.read text = .ok n := by
  simp only [Numeral.read, hannounces, readDigits_toDigits hlow hhigh, Except.map,
    UInt64.ofNat_toNat]

/-- The hexadecimal form of a word reads back as the word. -/
theorem read_hexadecimal (n : UInt64) : Numeral.read (hexadecimal n.toNat) = .ok n := by
  refine read_of_radixOf (by decide) (by decide : 16 ≤ 16) ?_
  rw [hexadecimal, String.toList_ofList, List.filter_cons_of_pos (by decide),
    List.filter_cons_of_pos (by decide), filter_toDigits (by decide) (by decide)]
  rfl

/-- Digits alone are no mark. -/
theorem radixOf_toDigits (n : Nat) : radixOf (Nat.toDigits 10 n) = (10, Nat.toDigits 10 n) := by
  unfold radixOf
  split
  · next heq =>
      have hmark : 'x' ∈ Nat.toDigits 10 n := by simp [heq]
      exact absurd hmark (not_mem_toDigits (by decide) (by decide) (by decide) n)
  · next heq =>
      have hmark : 'X' ∈ Nat.toDigits 10 n := by simp [heq]
      exact absurd hmark (not_mem_toDigits (by decide) (by decide) (by decide) n)
  · rfl

/-- The decimal form of a word reads back as the word. -/
theorem read_decimal (n : UInt64) : Numeral.read (decimal n.toNat) = .ok n := by
  refine read_of_radixOf (by decide) (by decide : 10 ≤ 16) ?_
  rw [decimal, String.toList_ofList, filter_toDigits (by decide) (by decide), radixOf_toDigits]

/-! ## Separators -/

/-- The second text is the first one with underscores put in anywhere. -/
inductive Underscored : List Char → List Char → Prop
  | nil : Underscored [] []
  | keep (c : Char) {text spaced : List Char} :
      Underscored text spaced → Underscored (c :: text) (c :: spaced)
  | insert {text spaced : List Char} :
      Underscored text spaced → Underscored text ('_' :: spaced)

/-- Every text is itself with no underscore put in. -/
theorem Underscored.refl (text : List Char) : Underscored text text := by
  induction text with
  | nil => exact .nil
  | cons c text ih => exact .keep c ih

/-- Without separators the two texts are the same. -/
theorem Underscored.filter_eq {text spaced : List Char} (h : Underscored text spaced) :
    spaced.filter (· ≠ '_') = text.filter (· ≠ '_') := by
  induction h with
  | nil => rfl
  | keep c _ ih => rw [List.filter_cons, List.filter_cons, ih]
  | insert _ ih => simpa using ih

/-- Underscores put into a text that is a number leave it the same number. -/
theorem parse_underscored {text spaced : String} {n : UInt64}
    (h : Underscored text.toList spaced.toList) (hread : Numeral.read text = .ok n) :
    parse spaced = .ok n := by
  have hsame : Numeral.read spaced = Numeral.read text := by
    rw [Numeral.read, Numeral.read, h.filter_eq]
  rw [parse, hsame, hread]
  rfl

/-! ## Numbers among words -/

/-- A character that ends a word. -/
def isBreak (c : Char) : Bool := c ∈ [' ', '\n', '(', ')', '+']

/-- The numbers in a text, from left to right: its words that are numbers. -/
def numbersIn (text : List Char) : List UInt64 :=
  (text.splitOnP isBreak).filterMap fun word => (parse (String.ofList word)).toOption

/-- No number goes across a break. -/
theorem numbersIn_append_break {c : Char} (hbreak : isBreak c) (front rest : List Char) :
    numbersIn (front ++ c :: rest) = numbersIn front ++ numbersIn rest := by
  rw [numbersIn, List.splitOnP_append_cons front rest hbreak, List.filterMap_append]
  rfl

/-- A text without a break that is read as a number is the only number in it. -/
theorem numbersIn_of_read {text : String} {n : UInt64} (hread : Numeral.read text = .ok n)
    (hword : ∀ c ∈ text.toList, isBreak c = false) : numbersIn text.toList = [n] := by
  have hparse : parse text = .ok n := parse_underscored (.refl _) hread
  rw [numbersIn, List.splitOnP_eq_singleton hword]
  simp [hparse, Except.toOption]

/-- Digits are no breaks. -/
theorem isBreak_of_mem_toDigits (hlow : 1 < radix) (hhigh : radix ≤ 16) (n : Nat) :
    ∀ c ∈ Nat.toDigits radix n, isBreak c = false := by
  intro c hmem
  have hnone : ∀ c ∈ hexDigits, isBreak c = false := by simp [hexDigits, isBreak]
  exact hnone c (mem_hexDigits_of_mem_toDigits hlow hhigh n c hmem)

theorem numbersIn_decimal (n : UInt64) : numbersIn (decimal n.toNat).toList = [n] := by
  refine numbersIn_of_read (read_decimal n) ?_
  rw [decimal, String.toList_ofList]
  exact isBreak_of_mem_toDigits (by decide) (by decide) n.toNat

theorem numbersIn_hexadecimal (n : UInt64) : numbersIn (hexadecimal n.toNat).toList = [n] := by
  refine numbersIn_of_read (read_hexadecimal n) ?_
  rw [hexadecimal, String.toList_ofList]
  intro c hmem
  rcases List.mem_cons.mp hmem with rfl | hmem
  · rfl
  rcases List.mem_cons.mp hmem with rfl | hdigit
  · rfl
  · exact isBreak_of_mem_toDigits (by decide) (by decide) n.toNat c hdigit

end ImageLaunch.Numeral
