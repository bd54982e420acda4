import ModbusRpc.Text.Basic

/-! # Payloads in base64

Binary parameters come as base64 text in the standard alphabet, with any line breaks in it. Padding
has to complete the last group of four, but a text of complete groups may have some as well.
-/

namespace ModbusRpc.Base64

inductive Fault where
  | notAscii
  | leadingPadding
  | excessData
  | foreignCharacter
  | discontinuousPadding
  /-- One character of the last group stands alone; the text has `count` data characters. -/
  | loneCharacter (count : Nat)
  | missingPadding
  deriving DecidableEq, Repr

def Fault.message : Fault → String
  | notAscii => "string argument should contain only ASCII characters"
  | leadingPadding => "Leading padding not allowed"
  | excessData => "Excess data after padding"
  | foreignCharacter => "Only base64 data is allowed"
  | discontinuousPadding => "Discontinuous padding not allowed"
  | loneCharacter count =>
    "Invalid base64-encoded string: number of data characters (" ++ toString count ++
      ") cannot be 1 more than a multiple of 4"
  | missingPadding => "Incorrect padding"

def sextet? (c : Char) : Option Nat :=
  if 'A' ≤ c ∧ c ≤ 'Z' then some (c.toNat - 'A'.toNat)
  else if 'a' ≤ c ∧ c ≤ 'z' then some (c.toNat - 'a'.toNat + 26)
  else if '0' ≤ c ∧ c ≤ '9' then some (c.toNat - '0'.toNat + 52)
  else if c = '+' then some 62
  else if c = '/' then some 63
  else none

/-- The bytes of a row of sextets; bits that do not fill a byte are dropped. -/
def bytesOfSextets : List Nat → List UInt8
  | a :: b :: c :: d :: rest =>
    (a * 4 + b / 16).toUInt8 :: (b * 16 + c / 4).toUInt8 :: (c * 64 + d).toUInt8 ::
      bytesOfSextets rest
  | [a, b, c] => [(a * 4 + b / 16).toUInt8, (b * 16 + c / 4).toUInt8]
  | [a, b] => [(a * 4 + b / 16).toUInt8]
  | _ => []

/-- Collects the sextets of a text. Those found so far are in `done`, reversed, and `pads` padding
characters came after the last of them; `padding` says whether there was any padding at all. -/
def scan (done : List Nat) (pads : Nat) (padding : Bool) : List Char → Except Fault (List Nat)
  | [] =>
    match done.length % 4 with
    | 0 => .ok done.reverse
    | 1 => .error (.loneCharacter done.length)
    | _ => .error .missingPadding
  | c :: rest =>
    if c = '=' then
      if 2 ≤ done.length % 4 then
        if 4 ≤ done.length % 4 + (pads + 1) then
          if rest.isEmpty then .ok done.reverse else .error .excessData
        else scan done (pads + 1) true rest
      else scan done pads true rest
    else
      match sextet? c with
      | none => .error .foreignCharacter
      | some n => if padding then .error .discontinuousPadding else scan (n :: done) 0 false rest

def decodeLine (cs : List Char) : Except Fault (List UInt8) :=
  if cs.head? = some '=' then .error .leadingPadding
  else (scan [] 0 false cs).map bytesOfSextets

def isLineBreak (p : CodePoint) : Bool := p = .scalar '\r' || p = .scalar '\n'

def decode (t : Text) : Except Fault (List UInt8) :=
  let t := t.filter fun p => !isLineBreak p
  match Text.chars? t with
  | none => .error .notAscii
  | some cs => if cs.all fun c => c.toNat < 0x80 then decodeLine cs else .error .notAscii

end ModbusRpc.Base64
