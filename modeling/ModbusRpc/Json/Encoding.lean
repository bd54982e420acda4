import ModbusRpc.Text.Basic

/-! # The encoding of a JSON document

A document comes as bytes in one of the Unicode encodings. A byte order mark tells which, else the
places of the zero bytes among the first four do. Surrogates that are encoded as if they were
characters are let through one by one; all other departures from an encoding are refused.
-/

namespace ModbusRpc.Json

inductive Encoding where
  | utf8
  | utf16 (bigEndian : Bool)
  | utf32 (bigEndian : Bool)
  deriving DecidableEq, Repr

namespace Encoding

/-- The encoding of a document without a byte order mark, which begins with an ASCII character. -/
def ofZeros : List UInt8 → Encoding
  | a :: b :: c :: d :: _ =>
    if a = 0 then (if b = 0 then .utf32 true else .utf16 true)
    else if b = 0 then (if c = 0 ∧ d = 0 then .utf32 false else .utf16 false)
    else .utf8
  | [a, b] => if a = 0 then .utf16 true else if b = 0 then .utf16 false else .utf8
  | _ => .utf8

def detect : List UInt8 → Encoding × List UInt8
  | 0x00 :: 0x00 :: 0xFE :: 0xFF :: rest => (.utf32 true, rest)
  | 0xFF :: 0xFE :: 0x00 :: 0x00 :: rest => (.utf32 false, rest)
  | 0xFE :: 0xFF :: rest => (.utf16 true, rest)
  | 0xFF :: 0xFE :: rest => (.utf16 false, rest)
  | 0xEF :: 0xBB :: 0xBF :: rest => (.utf8, rest)
  | bytes => (ofZeros bytes, bytes)

def tail? (b : UInt8) : Option Nat :=
  if 0x80 ≤ b ∧ b < 0xC0 then some (b.toNat - 0x80) else none

/-- The code point whose number needs at least `least`, the bound of the shorter forms. -/
def checked? (least n : Nat) : Option CodePoint := if least ≤ n then CodePoint.ofNat? n else none

/-- The text of bytes in UTF-8, where surrogates may stand in three-byte forms. -/
def decodeUtf8 : List UInt8 → Option Text
  | [] => some []
  | a :: rest =>
    if a < 0x80 then do
      let p ← CodePoint.ofNat? a.toNat
      let t ← decodeUtf8 rest
      some (p :: t)
    else if a < 0xC0 then none
    else if a < 0xE0 then
      match rest with
      | b :: rest => do
        let b ← tail? b
        let p ← checked? 0x80 ((a.toNat - 0xC0) * 0x40 + b)
        let t ← decodeUtf8 rest
        some (p :: t)
      | _ => none
    else if a < 0xF0 then
      match rest with
      | b :: c :: rest => do
        let b ← tail? b
        let c ← tail? c
        let p ← checked? 0x800 (((a.toNat - 0xE0) * 0x40 + b) * 0x40 + c)
        let t ← decodeUtf8 rest
        some (p :: t)
      | _ => none
    else if a < 0xF8 then
      match rest with
      | b :: c :: d :: rest => do
        let b ← tail? b
        let c ← tail? c
        let d ← tail? d
        let p ← checked? 0x10000 ((((a.toNat - 0xF0) * 0x40 + b) * 0x40 + c) * 0x40 + d)
        let t ← decodeUtf8 rest
        some (p :: t)
      | _ => none
    else none

def unit16 (bigEndian : Bool) (a b : UInt8) : Nat :=
  if bigEndian then a.toNat * 0x100 + b.toNat else b.toNat * 0x100 + a.toNat

def units16 (bigEndian : Bool) : List UInt8 → Option (List Nat)
  | [] => some []
  | [_] => none
  | a :: b :: rest => (units16 bigEndian rest).map (unit16 bigEndian a b :: ·)

/-- The text of sixteen-bit units; halves of surrogate pairs that miss their partner stay alone. -/
def joinUnits : List Nat → Option Text
  | [] => some []
  | [n] => do
    let p ← CodePoint.ofNat? n
    some [p]
  | n :: m :: rest =>
    if 0xD800 ≤ n ∧ n < 0xDC00 ∧ 0xDC00 ≤ m ∧ m < 0xE000 then do
      let p ← CodePoint.ofNat? (0x10000 + (n - 0xD800) * 0x400 + (m - 0xDC00))
      let t ← joinUnits rest
      some (p :: t)
    else do
      let p ← CodePoint.ofNat? n
      let t ← joinUnits (m :: rest)
      some (p :: t)

def decodeUtf32 (bigEndian : Bool) : List UInt8 → Option Text
  | [] => some []
  | a :: b :: c :: d :: rest => do
    let p ← CodePoint.ofNat?
      (if bigEndian then unit16 true a b * 0x10000 + unit16 true c d
       else unit16 false c d * 0x10000 + unit16 false a b)
    let t ← decodeUtf32 bigEndian rest
    some (p :: t)
  | _ => none

end Encoding

/-- The text of a document, `none` if its bytes are not in the encoding they appear to be in. -/
def decodeBytes (bytes : List UInt8) : Option Text :=
  match Encoding.detect bytes with
  | (.utf8, rest) => Encoding.decodeUtf8 rest
  | (.utf16 bigEndian, rest) => (Encoding.units16 bigEndian rest).bind Encoding.joinUnits
  | (.utf32 bigEndian, rest) => Encoding.decodeUtf32 bigEndian rest

end ModbusRpc.Json
