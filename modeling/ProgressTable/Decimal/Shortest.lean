import ProgressTable.Decimal.Binary64
import ProgressTable.Text.Numeral

/-!
# The shortest decimal text of a number

A binary number is written with the fewest decimal digits that still name it among all numbers of
double precision, and of several such the nearest. The decimals that name a number are those in
the interval of reals that round to it.
-/

namespace ProgressTable.Decimal

/-- The decimal `digits · 10 ^ scale`. -/
structure Digits where
  digits : Nat
  scale : Int
deriving Repr, DecidableEq

/-- The reals that round to a number, its ends and the number itself as fractions of one
denominator. The ends belong to it when the mantissa is even. -/
structure Interval where
  low : Nat
  middle : Nat
  high : Nat
  denominator : Nat
  closed : Bool

/-- The interval of a number. Below a power of two the numbers lie twice as close. -/
def Interval.of (x : Magnitude) : Interval :=
  let quarter := x.exponent - 2
  let (unit, denominator) := Magnitude.unscaled 1 1 (-quarter)
  let below := if x.mantissa = Magnitude.leastFull ∧ Magnitude.leastExponent < x.exponent then 1 else 2
  { low := (4 * x.mantissa - below) * unit
    middle := 4 * x.mantissa * unit
    high := (4 * x.mantissa + 2) * unit
    denominator
    closed := x.mantissa % 2 = 0 }

/-- Whether the ratio `num / den` lies in the interval. -/
def Interval.holds (i : Interval) (num den : Nat) : Bool :=
  let low := i.low * den
  let high := i.high * den
  let x := num * i.denominator
  if i.closed then low ≤ x && x ≤ high else low < x && x < high

/-- The power of ten of the leading digit of a ratio that is not zero. -/
def leadingPower (num den : Nat) : Int :=
  if den ≤ num then ((Numeral.ofNat (num / den)).length : Int) - 1
  else match (List.range 400).find? fun j => den ≤ num * Nat.pow 10 j with
    | some j => -(j : Int)
    | none => 0

/-- The nearer of the two neighbours of the number on the grid of multiples of `10 ^ scale`, if it
lies in the interval. At a tie the even one is taken. -/
def onGrid? (i : Interval) (scale : Int) : Option Digits :=
  let (p, q) := if scale < 0 then (1, Nat.pow 10 scale.natAbs) else (Nat.pow 10 scale.natAbs, 1)
  -- `d` stands for the decimal `d * p / q`
  let num := i.middle * q
  let den := i.denominator * p
  let d := num / den
  let nearest := Magnitude.roundRatio num den
  let other := if nearest = d then d + 1 else d
  if i.holds (nearest * p) q then some ⟨nearest, scale⟩
  else if i.holds (other * p) q then some ⟨other, scale⟩
  else none

/-- The digits without trailing zeros. -/
def Digits.strip (d : Digits) : Digits :=
  if h : 0 < d.digits ∧ d.digits % 10 = 0 then strip ⟨d.digits / 10, d.scale + 1⟩ else d
termination_by d.digits
decreasing_by exact Nat.div_lt_self h.1 (by decide)

/-- The shortest decimal that names a number which is not zero. -/
def shortest (x : Magnitude) : Digits :=
  let i := Interval.of x
  let power := leadingPower i.middle i.denominator
  match (List.range 17).findSome? fun n : Nat => onGrid? i (power - (n : Int)) with
  | some d => d.strip
  | none => ⟨0, 0⟩

/-! ## Notation -/

/-- Least power of ten of the leading digit that is written without an exponent. -/
def leastPositional : Int := -5

/-- First power of ten of the leading digit that is written with an exponent. -/
def firstScientific : Int := 16

/-- The power of ten of the leading digit. -/
def Digits.power (d : Digits) : Int := d.scale + (Numeral.ofNat d.digits).length - 1

/-- The digits before and behind the point when no exponent is written. -/
def Digits.parts (d : Digits) : Text × Text :=
  let ds := Numeral.ofNat d.digits
  if d.power < 0 then (['0'], List.replicate (d.power.natAbs - 1) '0' ++ ds)
  else
    let whole := d.power.natAbs + 1
    let filled := ds ++ List.replicate (whole - ds.length) '0'
    (filled.take whole, filled.drop whole)

/-- Writes a decimal without an exponent, and without a point when it is a whole number. -/
def Digits.positional (d : Digits) : Text :=
  let (whole, fraction) := d.parts
  whole ++ (if fraction.isEmpty then [] else '.' :: fraction)

/-- Writes a decimal. There is always a point or an exponent, and an exponent has a sign. -/
def Digits.text (d : Digits) : Text :=
  if leastPositional ≤ d.power ∧ d.power < firstScientific then
    let (whole, fraction) := d.parts
    whole ++ '.' :: (if fraction.isEmpty then ['0'] else fraction)
  else
    let ds := Numeral.ofNat d.digits
    let fraction := ds.drop 1
    ds.take 1 ++ (if fraction.isEmpty then [] else '.' :: fraction)
      ++ 'e' :: (if d.power < 0 then '-' else '+') :: Numeral.ofNat d.power.natAbs

/-- Writes a number by its shortest decimal. -/
def text (x : Binary64) : Text :=
  (if x.negative then ['-'] else [])
    ++ (if x.magnitude.mantissa = 0 then "0.0".toList else (shortest x.magnitude).text)

end ProgressTable.Decimal
