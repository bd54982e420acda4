/-! # Packed bits

Coils and discrete inputs travel eight to a byte, the first of them in the least significant place.
The last byte is filled up with zeros. A list is packed by setting its bits one after the other in
empty bytes, and unpacked by looking at one place after the other, up to the first that is outside.
-/

namespace ModbusRpc

def bytesFor (count : Nat) : Nat := (count + 7) / 8

def putBit (bytes : List UInt8) (i : Nat) (bit : Bool) : List UInt8 :=
  if bit then bytes.modify (i / 8) fun b => b ||| 1 <<< (i % 8).toUInt8 else bytes

/-- Puts a list of bits into a byte sequence, the first of them at place `i`. -/
def putBits (bytes : List UInt8) (i : Nat) : List Bool → List UInt8
  | [] => bytes
  | bit :: bits => putBits (putBit bytes i bit) (i + 1) bits

def packBits (bits : List Bool) : List UInt8 :=
  putBits (List.replicate (bytesFor bits.length) 0) 0 bits

/-- Bit `i` of a byte sequence, `none` behind its end. -/
def bit? (bytes : List UInt8) (i : Nat) : Option Bool :=
  bytes[i / 8]?.map fun b => b.toNat.testBit (i % 8)

def bitsFrom (bytes : List UInt8) (i : Nat) : Nat → Option (List Bool)
  | 0 => some []
  | count + 1 => do
    let bit ← bit? bytes i
    let bits ← bitsFrom bytes (i + 1) count
    return bit :: bits

def unpackBits (bytes : List UInt8) (count : Int) : Option (List Bool) :=
  bitsFrom bytes 0 count.toNat

/-- Bit `i` of a byte sequence, `false` behind its end. -/
def bitAt (bytes : List UInt8) (i : Nat) : Bool := (bytes.getD (i / 8) 0).toNat.testBit (i % 8)

@[simp] theorem length_putBit (bytes : List UInt8) (i : Nat) (bit : Bool) :
    (putBit bytes i bit).length = bytes.length := by
  cases bit with
  | true => exact List.length_modify _ _ _
  | false => rfl

@[simp] theorem length_putBits (bytes : List UInt8) (i : Nat) (bits : List Bool) :
    (putBits bytes i bits).length = bytes.length := by
  induction bits generalizing bytes i with
  | nil => rfl
  | cons bit bits ih => rw [putBits, ih, length_putBit]

theorem length_packBits (bits : List Bool) : (packBits bits).length = bytesFor bits.length := by
  rw [packBits, length_putBits, List.length_replicate]

theorem bit?_of_lt {bytes : List UInt8} {i : Nat} (h : i < 8 * bytes.length) :
    bit? bytes i = some (bitAt bytes i) := by
  have hi : i / 8 < bytes.length := by omega
  rw [bit?, bitAt, List.getD_eq_getElem?_getD, List.getElem?_eq_getElem hi]
  rfl

theorem bit?_of_le {bytes : List UInt8} {i : Nat} (h : 8 * bytes.length ≤ i) :
    bit? bytes i = none := by
  rw [bit?, List.getElem?_eq_none (by omega), Option.map_none]

theorem bitsFrom_eq {bytes : List UInt8} {i : Nat} (h : i ≤ 8 * bytes.length) (count : Nat) :
    bitsFrom bytes i count =
      if i + count ≤ 8 * bytes.length then some ((List.range' i count).map (bitAt bytes))
      else none := by
  induction count generalizing i with
  | zero => exact (if_pos h).symm
  | succ count ih =>
    rw [bitsFrom]
    by_cases hi : i < 8 * bytes.length
    · rw [bit?_of_lt hi, ih hi, Nat.succ_add_eq_add_succ, List.range'_succ]
      split <;> rfl
    · rw [bit?_of_le (by omega), if_neg (by omega)]
      rfl

theorem unpackBits_eq (bytes : List UInt8) (count : Int) : unpackBits bytes count =
    if count ≤ 8 * bytes.length then some ((List.range count.toNat).map (bitAt bytes))
    else none := by
  rw [unpackBits, bitsFrom_eq (Nat.zero_le _), List.range_eq_range']
  by_cases h : count ≤ 8 * bytes.length
  · rw [if_pos h, if_pos (by omega)]
  · rw [if_neg h, if_neg (by omega)]

theorem unpackBits_of_le {bytes : List UInt8} {count : Int} (h : count ≤ 8 * bytes.length) :
    unpackBits bytes count = some ((List.range count.toNat).map (bitAt bytes)) := by
  rw [unpackBits_eq, if_pos h]

end ModbusRpc
