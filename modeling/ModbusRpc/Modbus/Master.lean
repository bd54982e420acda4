import ModbusRpc.Fault
import ModbusRpc.Modbus.Exchange
import ModbusRpc.Payload.Bits
import ModbusRpc.Payload.Words

/-! # Transactions of a master

An operation is checked against the limits of its function and turned into a command. The answer to
the command is checked against the operation and gives the payload: packed bits, big-endian words,
or the two bytes that a write has echoed.
-/

namespace ModbusRpc

inductive Operation where
  | readBits (table : BitTable) (address quantity : Int)
  | readWords (table : WordTable) (address quantity : Int)
  | writeCoil (address state : Int)
  | writeRegister (address value : Int)
  | writeCoils (address quantity : Int) (payload : List UInt8)
  | writeRegisters (address quantity : Int) (payload : List UInt8)
  deriving DecidableEq, Repr

def coilOn : Int := 0xFF00
def coilOff : Int := 0x0000

def maxReadBits : Int := 2000
def maxReadWords : Int := 125
def maxWriteBits : Int := 1968
def maxWriteWords : Int := 123

/-- The byte count of a multiple write has to fit in one byte. -/
def maxByteCount : Nat := 255

def checkQuantity (quantity greatest : Int) : Except Fault Unit :=
  if 1 ≤ quantity ∧ quantity ≤ greatest then .ok ()
  else .error (.request (.quantity quantity greatest))

def checkByteCount (payload : List UInt8) (expected : Int) : Except Fault Unit :=
  if maxByteCount < payload.length then .error (.request (.byteCount payload.length))
  else if payload.length ≠ expected then
    .error (.request (.byteCountFor payload.length expected))
  else .ok ()

namespace Operation

def address : Operation → Int
  | readBits _ address _ | readWords _ address _ | writeCoil address _ | writeRegister address _
  | writeCoils address _ _ | writeRegisters address _ _ => address

def command : Operation → Except Fault Command
  | readBits table _ quantity => do
    checkQuantity quantity maxReadBits
    .ok (.readBits table quantity)
  | readWords table _ quantity => do
    checkQuantity quantity maxReadWords
    .ok (.readWords table quantity)
  | writeCoil _ state =>
    if state = coilOff ∨ state = coilOn then .ok (.writeCoil (state = coilOn))
    else .error (.request (.coilState state))
  | writeRegister _ value => .ok (.writeRegister value)
  | writeCoils _ quantity payload => do
    checkQuantity quantity maxWriteBits
    checkByteCount payload (bytesFor quantity.toNat)
    match unpackBits payload quantity with
    | some bits => .ok (.writeCoils bits)
    | none => .error .bitIndex
  | writeRegisters _ quantity payload => do
    checkQuantity quantity maxWriteWords
    checkByteCount payload (quantity * 2)
    match unpackExactly quantity payload with
    | .ok values => .ok (.writeRegisters values)
    | .error fault => .error (.notAWord fault)

def request (op : Operation) (unit : Int) : Except Fault Request :=
  op.command.map fun command => ⟨unit, op.address, command⟩

end Operation

def packedWords (count : Int) (ws : List Int) : Except Fault (List UInt8) :=
  (packExactly count ws).mapError .notAWord

/-- The payload of a bit read: whole bytes, with the bits that the unit sent behind the last one. -/
def packedBits (r : Response) (quantity : Int) : Except Fault (List UInt8) :=
  if (r.bits.length : Int) < quantity then
    .error (.response (.fewBits r.bits.length quantity))
  else .ok (packBits (r.bits.take (bytesFor quantity.toNat * 8)))

def packedRegisters (r : Response) (quantity : Int) : Except Fault (List UInt8) :=
  if (r.registers.length : Int) ≠ quantity then
    .error (.response (.registerCount r.registers.length quantity))
  else packedWords quantity r.registers

def writeEcho (r : Response) (echoed : Option Int) (address value : Int) :
    Except Fault (List UInt8) :=
  if r.address ≠ address then .error (.response (.address r.address address))
  else if echoed ≠ some value then .error (.response (.value echoed value))
  else packedWords 1 [value]

/-- The state that a response to a coil write reports; no bit at all counts as off. -/
def Response.coilState (r : Response) : Int := if r.bits.head? = some true then coilOn else coilOff

namespace Operation

def payload (op : Operation) (r : Response) : Except Fault (List UInt8) :=
  if r.isException then .error (.exception r.functionCode r.exceptionCode)
  else
    match op with
    | readBits _ _ quantity => packedBits r quantity
    | readWords _ _ quantity => packedRegisters r quantity
    | writeCoil address state => writeEcho r (some r.coilState) address state
    | writeRegister address value => writeEcho r r.registers.head? address value
    | writeCoils address quantity _ => writeEcho r (some r.count) address quantity
    | writeRegisters address quantity _ => writeEcho r (some r.count) address quantity

variable {m : Type → Type} [Monad m]

/-- One transaction with a unit over a link that `execute` stands for. -/
def perform (execute : Request → m (Except Fault Response)) (unit : Int) (op : Operation) :
    m (Except Fault (List UInt8)) :=
  match op.request unit with
  | .error fault => pure (.error fault)
  | .ok request => do
    match ← execute request with
    | .error fault => pure (.error fault)
    | .ok response => pure (op.payload response)

end Operation

end ModbusRpc
