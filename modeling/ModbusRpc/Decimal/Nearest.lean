import ModbusRpc.Decimal.Basic

/-! # The double nearest to a decimal

A positive quotient is scaled to 53 binary digits, or to the grid of subnormal numbers, and rounded
there; a tie goes to the even neighbour. Carries into the exponent and overflow to infinity need no
case of their own, because the bits of the doubles are ordered like their values.
-/

namespace ModbusRpc

def roundHalfEven (num den : Nat) : Nat :=
  let q := num / den
  let r := num % den
  if 2 * r < den then q else if den < 2 * r then q + 1 else q + q % 2

namespace Binary

def scaled (num den : Nat) (e : Int) : Nat × Nat :=
  (num * twoPow (-e).toNat, den * twoPow e.toNat)

def nearestBits (num den : Nat) : Nat :=
  let coarse : Int := max ((num.log2 : Int) - den.log2 - 53) (-1074)
  let whole := (scaled num den coarse).1 / (scaled num den coarse).2
  let e := if whole < 2 * leastNormal then coarse else coarse + 1
  let q := roundHalfEven (scaled num den e).1 (scaled num den e).2
  min ((e + 1074).toNat * leastNormal + q) infinityBits

end Binary

namespace Decimal

/-- The bits of the double nearest to a decimal. Exponents far outside the range of doubles are
settled without computing the power of ten. -/
def toBits (d : Decimal) : Nat :=
  let magnitude :=
    if d.coefficient = 0 then 0
    else if 400 < d.exponent then Binary.infinityBits
    else if d.exponent + (d.coefficient.log2 : Int) < -1200 then 0
    else Binary.nearestBits (d.coefficient * tenPow d.exponent.toNat) (tenPow (-d.exponent).toNat)
  if d.negative then Binary.signBit + magnitude else magnitude

def toFloat (d : Decimal) : Float := Float.ofBits (UInt64.ofNat d.toBits)

def ofInt (n : Int) : Decimal := ⟨n < 0, n.natAbs, 0⟩

end Decimal

end ModbusRpc
