/-!
# ImageLaunch.Binary64

Binary floating-point numbers of 64 bits, with exact arithmetic on natural
numbers.  A finite magnitude is counted in units of `2^-1074`, the smallest one
there is, so it is a natural number; magnitudes with up to 53 significant bits
are the ones that exist.

* `quotient`, `sum` — the magnitude nearest to a quotient or a sum, a half going
  to the even neighbour;
* `ofDecimal` — the number nearest to a decimal, by the same rule;
* `shortest` — the fewest decimal digits that read back as the number;
* `text` — those digits written positionally, with a fraction.
-/

namespace ImageLaunch

/-- A number as 64 bits hold it, apart from the many ways to be none. -/
inductive Binary64
  | finite (negative : Bool) (units : Nat)
  | infinite (negative : Bool)
  | notANumber
  deriving DecidableEq, Repr

namespace Binary64

/-- A power of two. -/
def twoTo (exponent : Nat) : Nat := Nat.pow 2 exponent

/-- A power of ten. -/
def tenTo (exponent : Nat) : Nat := Nat.pow 10 exponent

/-- Units in one. -/
def one : Nat := twoTo 1074

/-- The first magnitude out of range, in units. -/
def limit : Nat := twoTo 1024 * one

/-- The distance from a magnitude to the next one above it, in units. -/
def spacing (units : Nat) : Nat := twoTo (units.log2 - 52)

/-! ## Rounding -/

/-- The natural number nearest to a quotient, a half going to the even one. -/
def roundEven (num den : Nat) : Nat :=
  let rest := num % den
  if 2 * rest < den ∨ 2 * rest = den ∧ num / den % 2 = 0 then num / den else num / den + 1

/-- The magnitude nearest to `num / den` units. -/
def nearest (num den : Nat) : Nat :=
  let step := spacing (num / den)
  roundEven num (den * step) * step

/-- The magnitude nearest to a quotient of natural numbers. -/
def quotient (num den : Nat) : Nat := nearest (num * one) den

/-- The magnitude nearest to the sum of two magnitudes. -/
def sum (first second : Nat) : Nat := nearest (first + second) 1

/-! ## From a decimal -/

/-- No decimal whose first digit stands this far from the point is in range. -/
def digitBound : Int := 400

/-- The number nearest to `digits · 10^exponent`. -/
def ofDecimal (negative : Bool) (digits : Nat) (exponent : Int) : Binary64 :=
  let places := exponent + (Nat.toDigits 10 digits).length
  if digits = 0 ∨ places < -digitBound then .finite negative 0
  else if digitBound < places then .infinite negative
  else
    let units := nearest (digits * tenTo exponent.toNat * one) (tenTo (-exponent).toNat)
    if limit ≤ units then .infinite negative else .finite negative units

/-! ## To a decimal -/

/-- The real numbers that read back as a magnitude reach from half the spacing
below it to half the spacing above, the ends included if its last bit is zero; in
quarter units.  Below a power of two the spacing is half of what it is above. -/
def readsBack (units quarters scale : Nat) : Bool :=
  let step := spacing units
  let below := if units = twoTo units.log2 ∧ 1 < step then step else 2 * step
  let low := (4 * units - below) * scale
  let high := (4 * units + 2 * step) * scale
  if units / step % 2 = 0 then low ≤ quarters && quarters ≤ high
  else low < quarters && quarters < high

/-- The multiple of `10^exponent` that reads back as the magnitude, as a number
of such steps: the nearer of the two neighbours if both do, the upper one of two
equally near. -/
def onGrid (units : Nat) (exponent : Int) : Option Nat :=
  let step := tenTo exponent.toNat * one
  let scale := tenTo (-exponent).toNat
  let below := units * scale / step
  let rest := units * scale % step
  let hits (count : Nat) : Bool := readsBack units (4 * count * step) scale
  match hits below, hits (below + 1) with
  | true, true => some (if 2 * rest < step then below else below + 1)
  | true, false => some below
  | false, true => some (below + 1)
  | false, false => none

/-- The fewest digits that read back as a magnitude, with the power of ten that
the last of them counts: the coarsest decimal grid with a hit. -/
def shortest (units : Nat) : Nat × Int :=
  ((List.range 634).findSome? fun (fineness : Nat) =>
    let exponent : Int := 309 - fineness
    (onGrid units exponent).map (·, exponent)).getD (0, 0)

/-- Digits with a point in front of the last `places`, and at least one digit on
either side of it. -/
def positional (digits : List Char) (exponent : Int) : List Char :=
  let places := (-exponent).toNat
  let whole := digits ++ List.replicate exponent.toNat '0'
  if places = 0 then whole ++ ['.', '0']
  else if places < digits.length then
    digits.take (digits.length - places) ++ '.' :: digits.drop (digits.length - places)
  else '0' :: '.' :: List.replicate (places - digits.length) '0' ++ digits

/-- A number in writing, without an exponent. -/
def text : Binary64 → String
  | .notANumber => "NaN"
  | .infinite negative => if negative then "-inf" else "inf"
  | .finite negative units =>
    let (digits, exponent) := if units = 0 then (0, 0) else shortest units
    let magnitude := positional (Nat.toDigits 10 digits) exponent
    String.ofList (if negative then '-' :: magnitude else magnitude)

end Binary64

end ImageLaunch
