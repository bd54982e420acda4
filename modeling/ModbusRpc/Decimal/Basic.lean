/-! # Decimals

A decimal is a signed coefficient times a power of ten. Binary fractions of double precision are
handled through their bits, so that every rounding is done in exact integer arithmetic.
-/

namespace ModbusRpc

/-- The number `± coefficient · 10 ^ exponent`. -/
structure Decimal where
  negative : Bool
  coefficient : Nat
  exponent : Int
  deriving DecidableEq, Repr

namespace Decimal

def digit? (c : Char) : Option Nat := if c.isDigit then some (c.toNat - '0'.toNat) else none

def digitChar (d : Nat) : Char := Char.ofNat ('0'.toNat + d % 10)

def ofDigits (cs : List Char) : Nat := cs.foldl (fun n c => 10 * n + (digit? c).getD 0) 0

def digits (n : Nat) : List Char := (Nat.repr n).toList

end Decimal

def twoPow (n : Nat) : Nat := Nat.pow 2 n
def tenPow (n : Nat) : Nat := Nat.pow 10 n

structure Binary where
  mantissa : Nat
  exponent : Int
  /-- The next smaller double is only half as far away as the next larger one. -/
  narrowBelow : Bool
  deriving DecidableEq, Repr

namespace Binary

/-- The least mantissa of a normal double, of which the bits leave out the first. -/
def leastNormal : Nat := twoPow 52

def signBit : Nat := twoPow 63

def infinityBits : Nat := 0x7FF0000000000000

def ofBits (b : Nat) : Binary :=
  let biased : Nat := b / leastNormal % 0x800
  let fraction : Nat := b % leastNormal
  if biased = 0 then ⟨fraction, -1074, false⟩
  else ⟨leastNormal + fraction, (biased : Int) - 1075, fraction = 0 ∧ 1 < biased⟩

end Binary

end ModbusRpc
