import ModbusRpc.Decimal.Shortest

/-! # Writing doubles

A notation says where positional writing ends, how exponents look and what stands for the values
that are not finite. The digits themselves are always the shortest that read back.
-/

namespace ModbusRpc

structure FloatNotation where
  /-- The smallest exponent of the leading digit that is written positionally. -/
  leastPositional : Int
  /-- The largest exponent of the leading digit that is written positionally. -/
  greatestPositional : Int
  /-- What follows a positional number without a fraction. -/
  wholeMark : String
  /-- How many digits an exponent has at least. -/
  exponentDigits : Nat
  infinity : String
  notANumber : String

/-- Numbers are written positionally from `0.0001` on and below `10 ^ 16`, whole ones with a zero
after the point; exponents carry a sign and two digits. -/
def plainNotation : FloatNotation := ⟨-4, 15, ".0", 2, "inf", "nan"⟩

namespace FloatNotation

def exponentText (f : FloatNotation) (e : Int) : String :=
  let ds := Nat.repr e.natAbs
  (if e < 0 then "e-" else "e+") ++
    String.ofList (List.replicate (f.exponentDigits - ds.length) '0') ++ ds

/-- Lays out the digits `ds` of a number whose leading digit counts units of `10 ^ e`. -/
def layout (f : FloatNotation) (ds : List Char) (e : Int) : String :=
  if f.leastPositional ≤ e ∧ e ≤ f.greatestPositional then
    if e < 0 then
      "0." ++ String.ofList (List.replicate ((-e).toNat - 1) '0' ++ ds)
    else
      let whole := ds.take (e.toNat + 1)
      let zeros := List.replicate (e.toNat + 1 - ds.length) '0'
      let fraction := ds.drop (e.toNat + 1)
      String.ofList (whole ++ zeros) ++
        if fraction.isEmpty then f.wholeMark else "." ++ String.ofList fraction
  else
    let fraction := ds.drop 1
    String.ofList (ds.take 1) ++
      (if fraction.isEmpty then "" else "." ++ String.ofList fraction) ++ f.exponentText e

def render (f : FloatNotation) (x : Float) : String :=
  let bits := x.toBits.toNat
  let sign := if Binary.signBit ≤ bits then "-" else ""
  let magnitude := bits % Binary.signBit
  if Binary.infinityBits < magnitude then f.notANumber
  else if magnitude = Binary.infinityBits then sign ++ f.infinity
  else
    let (c, k) := (Binary.ofBits magnitude).shortest
    let ds := Decimal.digits c
    sign ++ f.layout ds (k + ds.length - 1)

end FloatNotation

end ModbusRpc
