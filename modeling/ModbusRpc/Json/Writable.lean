import ModbusRpc.Decimal.Basic
import ModbusRpc.Json.Basic

/-! # Values that cannot be sent

The reader accepts two kinds of values that a document sent to others cannot hold: numbers that are
not finite, and texts in which half of a surrogate pair stands alone.
-/

namespace ModbusRpc

def isFinite (x : Float) : Bool := x.toBits.toNat % Binary.signBit < Binary.infinityBits

namespace Json

mutual

def hasInfinite : Json → Bool
  | float x => !isFinite x
  | array items => itemsHaveInfinite items
  | object members => membersHaveInfinite members
  | _ => false

def itemsHaveInfinite : List Json → Bool
  | [] => false
  | v :: vs => hasInfinite v || itemsHaveInfinite vs

def membersHaveInfinite : List (Text × Json) → Bool
  | [] => false
  | (_, v) :: ms => hasInfinite v || membersHaveInfinite ms

end

mutual

def hasLoneSurrogate : Json → Bool
  | text t => t.chars?.isNone
  | array items => itemsHaveLoneSurrogate items
  | object members => membersHaveLoneSurrogate members
  | _ => false

def itemsHaveLoneSurrogate : List Json → Bool
  | [] => false
  | v :: vs => hasLoneSurrogate v || itemsHaveLoneSurrogate vs

def membersHaveLoneSurrogate : List (Text × Json) → Bool
  | [] => false
  | (k, v) :: ms => k.chars?.isNone || hasLoneSurrogate v || membersHaveLoneSurrogate ms

end

end Json

end ModbusRpc
