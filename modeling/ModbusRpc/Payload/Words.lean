/-! # Sixteen-bit words

Registers travel as big-endian words. A payload of even length is read as words; one of odd length
cannot be, and is read as a row of bytes.
-/

namespace ModbusRpc

def word (high low : UInt8) : Int := high.toNat * 256 + low.toNat

/-- The words of a payload; a byte left over at the end belongs to none. -/
def words : List UInt8 → List Int
  | high :: low :: rest => word high low :: words rest
  | _ => []

/-- The number that bytes spell, the first of them in the highest place. -/
def bigEndian (bytes : List UInt8) : Int := bytes.foldl (fun n b => n * 256 + b.toNat) 0

/-- The numbers in slices of two bytes, one from every other place before the last byte on. -/
def slicedWords (bytes : List UInt8) : List Int :=
  ((List.range (bytes.length - 1)).filter (· % 2 = 0)).map fun i =>
    bigEndian ((bytes.drop i).take 2)

def payloadValues (bytes : List UInt8) : List Int :=
  if bytes.length % 2 = 1 then bytes.map fun b => (b.toNat : Int) else slicedWords bytes

def IsWord (w : Int) : Prop := 0 ≤ w ∧ w ≤ 0xFFFF

instance : DecidablePred IsWord := fun w => inferInstanceAs (Decidable (0 ≤ w ∧ w ≤ 0xFFFF))

def wordBytes (w : Int) : List UInt8 := [(w / 256).toNat.toUInt8, (w % 256).toNat.toUInt8]

inductive WordFault where
  /-- A number has no place in sixteen bits. -/
  | range (value : Int)
  | wordCount (given : Nat) (expected : Int)
  | byteCount (expected : Int)
  deriving DecidableEq, Repr

def packWords : List Int → Except Int (List UInt8)
  | [] => .ok []
  | w :: ws => if IsWord w then (packWords ws).map (wordBytes w ++ ·) else .error w

@[simp] theorem packWords_nil : packWords [] = .ok [] := rfl

theorem packWords_cons_of_isWord {w : Int} {ws : List Int} (h : IsWord w) :
    packWords (w :: ws) = (packWords ws).map (wordBytes w ++ ·) := if_pos h

theorem packWords_cons_of_not_isWord {w : Int} {ws : List Int} (h : ¬ IsWord w) :
    packWords (w :: ws) = .error w := if_neg h

def packExactly (count : Int) (ws : List Int) : Except WordFault (List UInt8) :=
  if (ws.length : Int) = count then (packWords ws).mapError .range
  else .error (.wordCount ws.length count)

def unpackExactly (count : Int) (bytes : List UInt8) : Except WordFault (List Int) :=
  if (bytes.length : Int) = 2 * count then .ok (words bytes) else .error (.byteCount (2 * count))

theorem unpackExactly_of_length {count : Int} {bytes : List UInt8}
    (h : (bytes.length : Int) = 2 * count) : unpackExactly count bytes = .ok (words bytes) :=
  if_pos h

end ModbusRpc
