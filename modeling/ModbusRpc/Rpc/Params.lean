import ModbusRpc.Fault

/-! # Call parameters

Each parameter is looked up by its key, and a null counts as absent. The first rule that a value
breaks decides which fault is reported.
-/

namespace ModbusRpc

abbrev Params := Members

def IsInt64 (n : Int) : Prop := -0x8000000000000000 ≤ n ∧ n ≤ 0x7FFFFFFFFFFFFFFF

instance : DecidablePred IsInt64 :=
  fun n => inferInstanceAs (Decidable (-0x8000000000000000 ≤ n ∧ n ≤ 0x7FFFFFFFFFFFFFFF))

namespace Params

/-- The value of a parameter, if it is given and not null. -/
def given? (ps : Params) (key : Text) : Option Json :=
  match Members.get? ps key with
  | some .null => none
  | v => v

/-- An integer; without a default the parameter is required. -/
def integer (ps : Params) (key : Text) (default? : Option Int) : Except ParamFault Int :=
  match given? ps key with
  | none =>
    match default? with
    | some n => .ok n
    | none => .error (.required key)
  | some (.int n) => if IsInt64 n then .ok n else .error (.notInteger key)
  | some (.float _) => .error (.notInteger key)
  | some _ => .error (.notNumber key)

def unit (ps : Params) : Except ParamFault Int := do
  let n ← integer ps "slave_id" (some 0)
  if 0 ≤ n ∧ n ≤ 0xFF then .ok n else .error (.notByte "slave_id")

def word (ps : Params) (key : Text) (default? : Option Int) : Except ParamFault Int := do
  let n ← integer ps key default?
  if 0 ≤ n ∧ n ≤ 0xFFFF then .ok n else .error (.notWord key)

def addressAnd (key : Text) (ps : Params) : Except ParamFault (Int × Int) := do
  let address ← word ps "address" none
  let n ← word ps key none
  .ok (address, n)

def addressAndQuantity : Params → Except ParamFault (Int × Int) := addressAnd "quantity"

def addressAndValue : Params → Except ParamFault (Int × Int) := addressAnd "value"

def bytes (ps : Params) (key : Text) : Except ParamFault (List UInt8) :=
  match given? ps key with
  | some (.text t) => (Base64.decode t).mapError .notBase64
  | _ => .error (.notText key)

end Params

end ModbusRpc
