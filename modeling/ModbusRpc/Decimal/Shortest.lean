import ModbusRpc.Decimal.Basic

/-! # The shortest decimal of a double

The reals that round to a double form an interval, its ends included when the mantissa is even. Of
the grids of multiples of a power of ten, the coarsest one that meets the interval gives the fewest
digits; of two points there the nearer one is taken, and the even one of two equally near.
-/

namespace ModbusRpc.Binary

/-- Does `c · 10 ^ k` round to `x`? The ends of the interval are a half of the gap away. -/
def readsBack (x : Binary) (c : Nat) (k : Int) : Bool :=
  let lo := if x.narrowBelow then 4 * x.mantissa - 1 else 4 * x.mantissa - 2
  let hi := 4 * x.mantissa + 2
  let unit := twoPow (x.exponent - 2).toNat * tenPow (-k).toNat
  let point := c * tenPow k.toNat * twoPow (2 - x.exponent).toNat
  if x.mantissa % 2 = 0 then lo * unit ≤ point && point ≤ hi * unit
  else lo * unit < point && point < hi * unit

def gridPoint? (x : Binary) (k : Int) : Option Nat :=
  let num := x.mantissa * twoPow x.exponent.toNat * tenPow (-k).toNat
  let den := twoPow (-x.exponent).toNat * tenPow k.toNat
  let below := num / den
  match x.readsBack below k, x.readsBack (below + 1) k with
  | true, true =>
    let r := num % den
    some (if 2 * r < den then below else if den < 2 * r then below + 1 else below + below % 2)
  | true, false => some below
  | false, true => some (below + 1)
  | false, false => none

def searchGrid (x : Binary) : Nat → Int → Nat × Int
  | 0, _ => (x.mantissa * Nat.pow 5 (-x.exponent).toNat * twoPow x.exponent.toNat, min x.exponent 0)
  | fuel + 1, k =>
    match x.gridPoint? k with
    | some c => (c, k)
    | none => searchGrid x fuel (k - 1)

/-- Coefficient and exponent of the shortest decimal that rounds to `x`. The largest double is
below `10 ^ 309`, and the finest grid that can be needed is that of `10 ^ -324`. -/
def shortest (x : Binary) : Nat × Int :=
  if x.mantissa = 0 then (0, 0) else x.searchGrid 640 309

end ModbusRpc.Binary
