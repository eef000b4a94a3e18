/-!
# Binary numbers of double precision

Numbers m · 2^q with at most 53 binary digits in m and q between -1074 and 971, kept as exact pairs.
Sums are not needed here: a number comes from a ratio by rounding to the nearest, a tie going to
the even m, and a product or a quotient is rounded the same way.
-/

namespace ProgressTable

/-- The number `mantissa · 2 ^ exponent`. -/
structure Magnitude where
  mantissa : Nat
  exponent : Int
deriving Repr, DecidableEq

/-- A magnitude with a sign; zero has two signs. -/
structure Binary64 where
  negative : Bool
  magnitude : Magnitude
deriving Repr, DecidableEq

namespace Magnitude

/-- The least exponent. -/
def leastExponent : Int := -1074

/-- The greatest exponent. -/
def greatestExponent : Int := 971

/-- The least mantissa of 53 binary digits. -/
def leastFull : Nat := 0x10000000000000

/-- Zero. -/
def zero : Magnitude := ⟨0, leastExponent⟩

/-- The ratio `num / den` divided by a power of two, as a ratio. -/
def unscaled (num den : Nat) (e : Int) : Nat × Nat :=
  if e < 0 then (num * Nat.pow 2 e.natAbs, den) else (num, den * Nat.pow 2 e.natAbs)

/-- The nearest natural number to a ratio, the even one at a tie. -/
def roundRatio (num den : Nat) : Nat :=
  let q := num / den
  let r := num % den
  if 2 * r < den then q else if den < 2 * r then q + 1 else q + q % 2

/-- The nearest number to a ratio, or nothing when it is too great. -/
def nearest? (num den : Nat) : Option Magnitude :=
  if num = 0 then some zero
  else
    -- the ratio lies between half and twice the power of two that the logarithms give
    let guess : Int := (num.log2 : Int) - den.log2 - 52
    let (n, d) := unscaled num den guess
    let e := max (if n < d * leastFull then guess - 1 else guess) leastExponent
    let (n, d) := unscaled num den e
    let m := roundRatio n d
    let (m, e) := if m = 2 * leastFull then (leastFull, e + 1) else (m, e)
    if greatestExponent < e then none else some ⟨m, e⟩

/-- The number as a ratio. -/
def ratio (x : Magnitude) : Nat × Nat := unscaled x.mantissa 1 (-x.exponent)

/-- The nearest number to a decimal, or nothing when it is too great. A decimal far below the least
number is zero, and one far above the greatest is too great whatever its digits are. -/
def ofDecimal? (digits : Nat) (scale : Int) : Option Magnitude :=
  let top := scale + (digits.log2 / 3 + 1 : Nat)
  if digits = 0 ∨ top < -330 then some zero
  else if 700 < scale then none
  else if scale < 0 then nearest? digits (Nat.pow 10 scale.natAbs)
  else nearest? (digits * Nat.pow 10 scale.natAbs) 1

/-- The nearest whole number, a half going away from zero. -/
def round (x : Magnitude) : Nat :=
  let (num, den) := x.ratio
  (2 * num + den) / (2 * den)

/-- The product, rounded. -/
def mul? (x y : Magnitude) : Option Magnitude :=
  let (a, b) := x.ratio
  let (c, d) := y.ratio
  nearest? (a * c) (b * d)

/-- The quotient by a number that is not zero, rounded. -/
def div? (x y : Magnitude) : Option Magnitude :=
  let (a, b) := x.ratio
  let (c, d) := y.ratio
  nearest? (a * d) (b * c)

/-- The nearest number to a power of ten, for powers up to 308. -/
def powerOfTen (k : Nat) : Magnitude := (nearest? (Nat.pow 10 k) 1).getD zero

/-- The significand times a negative power of ten: repeated division by the greatest power of ten
that there is, and one by what is left of the power. -/
def divPowerOfTen (x : Magnitude) (k : Nat) : Magnitude :=
  if k ≤ 308 then (x.div? (powerOfTen k)).getD zero
  else if x.mantissa = 0 then x
  else divPowerOfTen ((x.div? (powerOfTen 308)).getD zero) (k - 308)
termination_by k

/-- The significand times a power of ten, or nothing when it is too great. A power beyond 308 is
too great for any significand but zero. -/
def scaled? (significand : Nat) (exponent : Int) : Option Magnitude :=
  (nearest? significand 1).bind fun x =>
    if exponent < 0 then some (x.divPowerOfTen exponent.natAbs)
    else if exponent ≤ 308 then x.mul? (powerOfTen exponent.natAbs)
    else if x.mantissa = 0 then some x
    else none

end Magnitude
end ProgressTable
