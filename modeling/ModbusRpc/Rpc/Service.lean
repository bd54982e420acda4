import ModbusRpc.Modbus.Framer
import ModbusRpc.Rpc.Method

/-! # Calls

A call of a known method with sound parameters becomes one request on the link, framed as the mode
says. Any other call ends in a fault before the link is touched.
-/

namespace ModbusRpc

namespace Service

def order (name : String) (ps : Params) : Except Fault (Method × Order) :=
  match Method.ofName? name with
  | none => .error (.unknownMethod name)
  | some method =>
    match method.order ps with
    | .error fault => .error (.param fault)
    | .ok order => .ok (method, order)

variable {m : Type → Type} [Monad m]

/-- Runs a call over a link that `execute` stands for. A call without parameters has none given. -/
def call (execute : Framer → Request → m (Except Fault Response)) (mode : Mode) (name : String)
    (ps : Option Params) : m (Except Fault Value) :=
  match order name (ps.getD []) with
  | .error fault => pure (.error fault)
  | .ok (method, order) => do
    match ← order.operation.perform (execute (mode.framer order.unit)) order.unit with
    | .error fault => pure (.error fault)
    | .ok payload => pure (method.value payload)

end Service

end ModbusRpc
