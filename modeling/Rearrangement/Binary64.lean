import Rearrangement.Geometry

/-!
# Doubles

The doubles taken apart and put together, the functions on them that are not among the primitive
operations, and the instance that makes them coordinates.

Addition, multiplication, comparison and the circular functions are those of the machine.  Two
functions that it does not offer are worked out here to the last bit: the remainder, by whole
numbers, since the remainder of two doubles is itself a double; and the length of a vector, with one
step of correction.

`Parts.ofFloat?` and `Parts.toFloat` also serve the decimal notation, where a double has to be
compared with decimals exactly.
-/

-- A power of naturals is this one, whatever others are in scope.
attribute [instance (1100), default_instance 20000] instPowNat

namespace Rearrangement.Binary64

/-! ## The parts of a double

A finite double is a sign and a natural times a power of two.  `Parts.ofFloat?` takes a double apart
and `Parts.toFloat` rounds any such product to the nearest double, a tie to the even one. -/

/-- The dyadic number `± mantissa · 2 ^ exponent`; the sign is kept when the mantissa is zero. -/
structure Parts where
  negative : Bool
  mantissa : Nat
  exponent : Int
deriving DecidableEq, Repr

namespace Parts

/-- The least exponent of a double. -/
def leastExponent : Int := -1074

/-- The parts of a double, or `none` when it is not finite. -/
def ofFloat? (x : Float) : Option Parts :=
  let bits := x.toBits.toNat
  let negative := decide (2 ^ 63 ≤ bits)
  let field := bits / 2 ^ 52 % 2 ^ 11
  let fraction := bits % 2 ^ 52
  if field = 2047 then none
  else if field = 0 then some ⟨negative, fraction, leastExponent⟩
  else some ⟨negative, 2 ^ 52 + fraction, leastExponent + (field - 1 : Nat)⟩

/-- `n / d` to the nearest natural, a half to the even one. -/
def roundDiv (n d : Nat) : Nat :=
  let q := n / d
  let r := n % d
  if 2 * r < d then q
  else if d < 2 * r then q + 1
  else if q % 2 = 0 then q else q + 1

/-- The nearest double, a tie to the even one, and an infinity beyond the largest. -/
def toFloat (p : Parts) : Float :=
  let sign := if p.negative then 2 ^ 63 else 0
  if p.mantissa = 0 then Float.ofBits (UInt64.ofNat sign)
  else
    let length : Int := p.mantissa.log2 + 1
    let target := Max.max (p.exponent + length - 53) leastExponent
    let rounded :=
      if target ≤ p.exponent then p.mantissa * 2 ^ (p.exponent - target).toNat
      else roundDiv p.mantissa (2 ^ (target - p.exponent).toNat)
    let magnitude := (target - leastExponent).toNat * 2 ^ 52 + rounded
    Float.ofBits (UInt64.ofNat (sign + Min.min magnitude (2047 * 2 ^ 52)))

end Parts

/-! ## The remainder of doubles

The remainder of a division, worked out in whole numbers.  The remainder of two doubles is itself a
double, so nothing is lost. -/

/-- Not a number. -/
def nan : Float := 0 / 0

/-- The remainder of `x / y` that has the sign of `x`. -/
def remainder (x y : Float) : Float :=
  match Parts.ofFloat? x, Parts.ofFloat? y with
  | some p, some d =>
      if d.mantissa = 0 then nan
      else
        let e := Min.min p.exponent d.exponent
        let scaled (a : Parts) : Nat := a.mantissa * 2 ^ (a.exponent - e).toNat
        Parts.toFloat ⟨p.negative, scaled p % scaled d, e⟩
  | some _, none => if y ≤ y then x else nan
  | none, _ => nan

/-! ## The length of a vector of doubles

The square root of the sum of the squares, with one step of correction for what rounding has lost.
Vectors whose squares would leave the range of doubles are scaled first. -/

/-- `√(a² + b²)` for `a ≥ b ≥ 0` whose squares neither overflow nor underflow.  The error of the
square root is worked out from the distance to the nearer side, and taken off. -/
def correctedHypot (a b : Float) : Float :=
  let h := (a * a + b * b).sqrt
  let error :=
    if h ≤ 2 * b then
      let d := h - b
      a * (2 * d - a) + (d - 2 * (a - b)) * d
    else
      let d := h - a
      2 * d * (a - 2 * b) + ((4 * d - b) * b + d * d)
  h - error / (2 * h)

/-- The factor by which small vectors are divided and large ones multiplied, 2⁻⁶⁰⁰. -/
def hypotScale : Float := .ofBits 0x1A70000000000000

/-- A side above this is scaled down, 2⁵¹¹. -/
def hypotLarge : Float := .ofBits 0x5FE0000000000000

/-- A side below this is scaled up, 2⁻⁴⁵⁹. -/
def hypotTiny : Float := .ofBits 0x2340000000000000

/-- A side that is this much shorter than the other one no longer counts, 2⁻⁵⁴. -/
def hypotNegligible : Float := .ofBits 0x3C90000000000000

/-- The length of the vector `(x, y)`, infinite as soon as one component is. -/
def hypot (x y : Float) : Float :=
  if x.isFinite && y.isFinite then
    let a := if x.abs < y.abs then y.abs else x.abs
    let b := if x.abs < y.abs then x.abs else y.abs
    if hypotLarge < a then
      if b ≤ a * hypotNegligible then a + b
      else correctedHypot (a * hypotScale) (b * hypotScale) / hypotScale
    else if b < hypotTiny then
      if b / hypotNegligible ≤ a then a + b
      else correctedHypot (a / hypotScale) (b / hypotScale) * hypotScale
    else if b ≤ a * hypotNegligible then a + b
    else correctedHypot a b
  else if x.isInf || y.isInf then 1 / 0
  else x + y

end Rearrangement.Binary64

namespace Rearrangement

/-! ## Doubles as coordinates -/

instance : Scalar Float where
  natCast := Float.ofNat
  decidableLE := inferInstance
  decidableLT := inferInstance
  pi := 3.141592653589793
  cos := Float.cos
  sin := Float.sin
  atan2 := Float.atan2
  remainder := Binary64.remainder
  hypot := Binary64.hypot

end Rearrangement
