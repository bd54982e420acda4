import ModbusRpc.Json.Writable
import ModbusRpc.Validation.Number

/-! # Reading outside values

An integer may come as text or as a whole float, a number as text or as an integer. Text is taken as
it is, but a text that has to be one of a few, or a proper string, must not hold half of a surrogate
pair.
-/

namespace ModbusRpc.Validation

def integerOfFloat (x : Float) : Except Flaw Int :=
  let bits := x.toBits.toNat
  if !isFinite x then .error .infinite
  else
    let b := Binary.ofBits (bits % Binary.signBit)
    let unit := twoPow (-b.exponent).toNat
    if b.mantissa % unit ≠ 0 then .error .fractional
    else
      let n := b.mantissa / unit * twoPow b.exponent.toNat
      if Binary.signBit ≤ n then .error .huge
      else .ok (if Binary.signBit ≤ bits then -n else n)

def integer : Json → Except Flaw Int
  | .int n => .ok n
  | .bool b => .ok b.toNat
  | .float x => integerOfFloat x
  | .text t =>
    match t.chars? with
    | none => .error .brokenText
    | some cs => integerOfText cs
  | _ => .error .notInteger

def float : Json → Except Flaw Float
  | .float x => .ok x
  | .int n =>
    let d := Decimal.ofInt n
    if d.toBits % Binary.signBit = Binary.infinityBits then .error .notNumber else .ok d.toFloat
  | .bool b => .ok (if b then 1.0 else 0.0)
  | .text t =>
    match t.chars? with
    | none => .error .brokenText
    | some cs => (floatOfText cs).elim (.error .notNumberText) .ok
  | _ => .error .notNumber

def text : Json → Except Flaw Text
  | .text t => .ok t
  | _ => .error .notText

def string : Json → Except Flaw String
  | .text t => t.toString?.elim (.error .brokenText) .ok
  | _ => .error .notText

/-- One of a few texts, each of which stands for a value. -/
def choice {α : Type} (options : List (String × α)) (v : Json) : Except Flaw α :=
  let refused : Except Flaw α := .error (.notAllowed (options.map Prod.fst))
  match v with
  | .text t =>
    match t.toString? with
    | none => .error .brokenText
    | some s => (options.lookup s).elim refused .ok
  | _ => refused

end ModbusRpc.Validation
