import ModbusRpc.Rpc.Coil
import ModbusRpc.Rpc.Params

/-! # The methods of the gateway

Each method turns its parameters into one operation on one unit, and the payload of that operation
into a value. The parameters are all checked before anything is sent.
-/

namespace ModbusRpc

inductive Method where
  | readCoil
  | readDiscrete
  | writeCoil
  | writeMultipleCoils
  | readInput
  | readHolding
  | writeRegister
  | writeMultipleRegisters
  deriving DecidableEq, Repr

inductive Value where
  | single (n : Int)
  | list (ns : List Int)
  deriving DecidableEq, Repr

def Value.toJson : Value → Json
  | single n => .int n
  | list ns => .array (ns.map .int)

structure Order where
  unit : Int
  operation : Operation
  deriving DecidableEq, Repr

namespace Method

def name : Method → String
  | readCoil => "modbus-read-coil"
  | readDiscrete => "modbus-read-discrete"
  | writeCoil => "modbus-write-coil"
  | writeMultipleCoils => "modbus-write-multiple-coils"
  | readInput => "modbus-read-input"
  | readHolding => "modbus-read-holding"
  | writeRegister => "modbus-write-register"
  | writeMultipleRegisters => "modbus-write-multiple-registers"

def all : List Method := [readCoil, readDiscrete, writeCoil, writeMultipleCoils, readInput,
  readHolding, writeRegister, writeMultipleRegisters]

def ofName? (s : String) : Option Method := all.find? fun m => m.name = s

theorem mem_all (m : Method) : m ∈ all := by cases m <;> decide

@[simp] theorem ofName?_name (m : Method) : ofName? m.name = some m := by cases m <;> decide

theorem ofName?_eq_some_iff {m : Method} {name : String} :
    ofName? name = some m ↔ m.name = name := by
  constructor
  · intro h
    unfold ofName? at h
    simpa using List.find?_some h
  · rintro rfl
    exact ofName?_name m

theorem name_inj {m k : Method} : m.name = k.name ↔ m = k := by
  rw [← ofName?_eq_some_iff, ofName?_name, Option.some.injEq, eq_comm]

def readOrder (operation : (address quantity : Int) → Operation) (ps : Params) :
    Except ParamFault Order := do
  let (address, quantity) ← ps.addressAndQuantity
  let unit ← ps.unit
  .ok ⟨unit, operation address quantity⟩

def writeOrder (operation : (address quantity : Int) → List UInt8 → Operation) (ps : Params) :
    Except ParamFault Order := do
  let (address, quantity) ← ps.addressAndQuantity
  let payload ← ps.bytes "value"
  let unit ← ps.unit
  .ok ⟨unit, operation address quantity payload⟩

/-- The operation that a call asks for, or the first of its parameters that is at fault. -/
def order (m : Method) (ps : Params) : Except ParamFault Order :=
  match m with
  | readCoil => readOrder (.readBits .coils) ps
  | readDiscrete => readOrder (.readBits .discreteInputs) ps
  | readInput => readOrder (.readWords .inputRegisters) ps
  | readHolding => readOrder (.readWords .holdingRegisters) ps
  | writeCoil => do
    let (address, value) ← ps.addressAndValue
    let state ← Coil.encode value
    let unit ← ps.unit
    .ok ⟨unit, .writeCoil address state⟩
  | writeRegister => do
    let (address, value) ← ps.addressAndValue
    let unit ← ps.unit
    .ok ⟨unit, .writeRegister address value⟩
  | writeMultipleCoils => writeOrder .writeCoils ps
  | writeMultipleRegisters => writeOrder .writeRegisters ps

def value (m : Method) (payload : List UInt8) : Except Fault Value :=
  match m with
  | writeCoil => ((Coil.normalize (payloadValues payload)).mapError .response).map .single
  | _ => .ok (.list (payloadValues payload))

end Method

end ModbusRpc
