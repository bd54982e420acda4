/-! # Requests and responses

A request names a unit, an address and a command; a response carries the fields that some answer
has, and leaves the others empty.
-/

namespace ModbusRpc

inductive BitTable where
  | coils
  | discreteInputs
  deriving DecidableEq, Repr

inductive WordTable where
  | inputRegisters
  | holdingRegisters
  deriving DecidableEq, Repr

inductive Command where
  | readBits (table : BitTable) (count : Int)
  | readWords (table : WordTable) (count : Int)
  | writeCoil (on : Bool)
  | writeRegister (value : Int)
  | writeCoils (values : List Bool)
  | writeRegisters (values : List Int)
  deriving DecidableEq, Repr

structure Request where
  unit : Int
  address : Int
  command : Command
  deriving DecidableEq, Repr

structure Response where
  address : Int := 0
  count : Int := 0
  bits : List Bool := []
  registers : List Int := []
  functionCode : Int := 0
  exceptionCode : Int := 0
  deriving DecidableEq, Repr

/-- Function codes beyond 128 mark exceptions. -/
def Response.isException (r : Response) : Bool := 128 < r.functionCode

end ModbusRpc
