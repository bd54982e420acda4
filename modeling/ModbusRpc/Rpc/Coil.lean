import ModbusRpc.Modbus.Master

/-! # Coil values

Callers know a coil as zero or one, units as two wire values. The codec goes between them.
-/

namespace ModbusRpc.Coil

def encode (value : Int) : Except ParamFault Int :=
  if value = 1 then .ok coilOn else if value = 0 then .ok coilOff else .error (.notBit value)

/-- The state that an acknowledgement reports, with the wire value for on as one. -/
def normalize : List Int → Except ResponseFault Int
  | [] => .error .emptyAcknowledgement
  | v :: _ => .ok (if v = coilOn then 1 else v)

end ModbusRpc.Coil
