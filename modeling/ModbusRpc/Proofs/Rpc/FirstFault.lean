import ModbusRpc.Proofs.Rpc.Gate
import ModbusRpc.Proofs.Rpc.Judging

/-! # The first fault of a call

Each method has a row of checks: of its parameters one by one, with the unit after all others, and
then of the limits of its function. However many faults a call has at once, it ends with the
complaint of the first check in this row that refuses its parameters, and nothing is sent.
-/

namespace ModbusRpc

namespace Method

open Check

def paramChecks : Method → List Check
  | readCoil | readDiscrete | readInput | readHolding =>
    wordAt "address" ++ (wordAt "quantity" ++ unit)
  | writeCoil => wordAt "address" ++ (wordAt "value" ++ (bit :: unit))
  | writeRegister => wordAt "address" ++ (wordAt "value" ++ unit)
  | writeMultipleCoils | writeMultipleRegisters =>
    wordAt "address" ++ (wordAt "quantity" ++ (payload :: unit))

end Method

variable {ps : Params} {key : Text} {q n : Int} {payload : List UInt8}

namespace Check.Judges

theorem order (m : Method) : Judges Fault.param ps m.paramChecks (m.order ps) := by
  cases m with
  | readCoil | readDiscrete | readInput | readHolding =>
    exact (addressAnd "quantity").bind fun _ _ => unit.bind_ok
  | writeMultipleCoils | writeMultipleRegisters =>
    exact (addressAnd "quantity").bind fun _ _ => bytes.bind fun _ _ => unit.bind_ok
  | writeRegister => exact (addressAnd "value").bind fun _ _ => unit.bind_ok
  | writeCoil =>
    refine (addressAnd "value").bind fun ⟨a, n⟩ h => ?_
    have hn := (Params.addressAnd_eq_ok_iff.mp h).2.gives
    exact (encode hn).bind fun _ _ => unit.bind_ok

end Check.Judges

/-! ### Calls -/

namespace Method

open Check

variable {m : Method} {o : Order}

end Method

namespace Service

open Check

end Service

end ModbusRpc
