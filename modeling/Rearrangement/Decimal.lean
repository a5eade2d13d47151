import Rearrangement.Binary64

/-!
# Doubles in decimal notation

How a double is written: with the fewest digits that are read back as the same double, or with two
places for a label.

All of this is arithmetic on whole numbers.  The reals that round to a double form an interval
(`Interval.around`), and a decimal of a given number of digits falls into it or not; the least such
number is found by trying one after the other (`digits`).  The layout is a matter apart (`written`):
where the point goes, and from which power of ten on an exponent is written.
-/

namespace Rearrangement.Decimal

/-! ## The shortest decimal that reads back

Every real in an interval around a double rounds to that double.  `digits` looks for the least
number of significant digits with which a decimal falls into the interval, and of two such decimals
takes the nearer one. -/

/-- The decimal `significand · 10 ^ exponent`. -/
structure Digits where
  significand : Nat
  exponent : Int
deriving DecidableEq, Repr

/-- The reals that round to a double, over the common denominator `den`: those between `low / den`
and `high / den`, the ends included only if `closed`.  The double itself is `value / den`. -/
structure Interval where
  low : Nat
  value : Nat
  high : Nat
  den : Nat
  closed : Bool
deriving Repr

namespace Interval

/-- The reals nearest to `mantissa · 2 ^ exponent`.  Below a power of two the next double is half as
far away as above it. -/
def around (mantissa : Nat) (exponent : Int) : Interval :=
  let gapBelow := if mantissa = 2 ^ 52 ∧ Binary64.Parts.leastExponent < exponent then 1 else 2
  let num := 2 ^ (exponent - 2).toNat
  { low := (4 * mantissa - gapBelow) * num
    value := 4 * mantissa * num
    high := (4 * mantissa + 2) * num
    den := 2 ^ (2 - exponent).toNat
    closed := mantissa % 2 = 0 }

/-- `n · num / unit` lies in the interval, where a unit of the grid is `num / unit`. -/
def holds (i : Interval) (n num unit : Nat) : Bool :=
  let point := n * num * i.den
  if i.closed then decide (i.low * unit ≤ point ∧ point ≤ i.high * unit)
  else decide (i.low * unit < point ∧ point < i.high * unit)

end Interval

/-- The number of decimal digits of `n`, none for zero. -/
def length (n : Nat) : Nat := if n = 0 then 0 else (Nat.toDigits 10 n).length

/-- The `e` with `10 ^ (e - 1) ≤ num / den < 10 ^ e`, for a positive quotient. -/
def magnitude (num den : Nat) : Int :=
  if den ≤ num then length (num / den) else 1 - (length ((den - 1) / num) : Int)

/-- The decimal with `count` significant digits nearest to the value among those in the interval. -/
def pick? (i : Interval) (e : Int) (count : Nat) : Option Digits :=
  let k := e - count
  let num := 10 ^ k.toNat
  let unit := 10 ^ (-k).toNat
  let below := i.value * unit / (i.den * num)
  let above := below + 1
  let toBelow := i.value * unit - below * num * i.den
  let toAbove := above * num * i.den - i.value * unit
  match i.holds below num unit, i.holds above num unit with
  | true, true =>
      some ⟨if toBelow < toAbove ∨ (toBelow = toAbove ∧ below % 2 = 0) then below else above, k⟩
  | true, false => some ⟨below, k⟩
  | false, true => some ⟨above, k⟩
  | false, false => none

/-- The significand without its trailing zeros; `fuel` bounds their number. -/
def strip : Nat → Digits → Digits
  | 0, d => d
  | fuel + 1, d =>
      if d.significand ≠ 0 ∧ d.significand % 10 = 0 then
        strip fuel ⟨d.significand / 10, d.exponent + 1⟩
      else d

/-- The shortest decimal that rounds to `mantissa · 2 ^ exponent`.  Seventeen digits always do. -/
def digits (mantissa : Nat) (exponent : Int) : Digits :=
  if mantissa = 0 then ⟨0, 0⟩
  else
    let i := Interval.around mantissa exponent
    let e := magnitude i.value i.den
    strip 18 (((List.range 17).findSome? fun n => pick? i e (n + 1)).getD ⟨0, 0⟩)

/-! ## Written numbers

How a double is written where a value has to be read back, and where a label has to be short. -/

/-- The decimal digits of `n`, the highest first. -/
def digitsOf (n : Nat) : List Char := Nat.toDigits 10 n

/-- The shape of a written double. -/
structure Shape where
  /-- The least power of ten that is written out. -/
  positionalFrom : Int
  /-- The first power of ten that is not. -/
  positionalBelow : Int
  /-- Whether a positive exponent carries its sign. -/
  plusSign : Bool
deriving Repr

/-- Significant digits with the point after `whole` of them; at least one digit on both sides. -/
def positional (ds : List Char) (whole : Int) : List Char :=
  if whole ≤ 0 then '0' :: '.' :: (List.replicate whole.natAbs '0' ++ ds)
  else if ds.length ≤ whole.toNat then
    ds ++ List.replicate (whole.toNat - ds.length) '0' ++ ['.', '0']
  else ds.take whole.toNat ++ '.' :: ds.drop whole.toNat

/-- One digit, the others after a point, and the power of ten. -/
def scientific (shape : Shape) (ds : List Char) (power : Int) : List Char :=
  let significand := if ds.length ≤ 1 then ds else ds.take 1 ++ '.' :: ds.drop 1
  let sign := if power < 0 then ['-'] else if shape.plusSign then ['+'] else []
  significand ++ 'e' :: sign ++ digitsOf power.natAbs

/-- The shortest decimal for a finite double. -/
def written (shape : Shape) (p : Binary64.Parts) : List Char :=
  let sign := if p.negative then ['-'] else []
  let d := digits p.mantissa p.exponent
  let ds := digitsOf d.significand
  let power := d.exponent + ds.length - 1
  let zero := d.significand = 0
  sign ++
    if zero ∨ (shape.positionalFrom ≤ power ∧ power < shape.positionalBelow) then
      positional ds (if zero then 1 else power + 1)
    else scientific shape ds power

/-- A finite double with `places` digits after the point, a half to the even one.  The sign of a
negative zero stays. -/
def fixed (places : Nat) (p : Binary64.Parts) : List Char :=
  let num := p.mantissa * 2 ^ p.exponent.toNat * 10 ^ places
  let n := Binary64.Parts.roundDiv num (2 ^ (-p.exponent).toNat)
  let ds := digitsOf (n % 10 ^ places)
  let sign := if p.negative then ['-'] else []
  sign ++ digitsOf (n / 10 ^ places) ++ '.' :: (List.replicate (places - ds.length) '0' ++ ds)

/-- A label with two places. -/
def label (x : Float) : String :=
  match Binary64.Parts.ofFloat? x with
  | some p => String.ofList (fixed 2 p)
  | none => if x ≤ x then (if x < 0 then "-inf" else "inf") else "NaN"

end Rearrangement.Decimal
