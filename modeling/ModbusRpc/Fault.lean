import ModbusRpc.Json.Writer
import ModbusRpc.Payload.Base64
import ModbusRpc.Payload.Words

/-! # Faults

What can go wrong in a call, by cause: its parameters, the request built from them, the answer of
the unit, the link, or whatever the device behind the link reports. Each cause has one wording.
-/

namespace ModbusRpc

inductive ParamFault where
  | required (key : Text)
  | notNumber (key : Text)
  | notInteger (key : Text)
  | notByte (key : Text)
  | notWord (key : Text)
  /-- A coil is written as zero or one only. -/
  | notBit (value : Int)
  | notText (key : Text)
  | notBase64 (fault : Base64.Fault)
  deriving DecidableEq, Repr

inductive RequestFault where
  | quantity (given greatest : Int)
  | byteCount (given : Nat)
  | byteCountFor (given : Nat) (expected : Int)
  | coilState (given : Int)
  deriving DecidableEq, Repr

inductive ResponseFault where
  | fewBits (received : Nat) (quantity : Int)
  | registerCount (received : Nat) (quantity : Int)
  | address (received requested : Int)
  | value (received : Option Int) (requested : Int)
  | emptyAcknowledgement
  deriving DecidableEq, Repr

inductive LinkFault where
  | noResponse (link timeout : Text)
  | unreachable (link : Text)
  | broken (text : Text)
  | transaction (text : Text)
  /-- The link has no endpoint that it could be opened to. -/
  | noEndpoint
  deriving DecidableEq, Repr

inductive StackKind where
  | general
  | inputOutput
  | connection
  | parameter
  | unknownUnit
  | notImplemented
  | registration
  deriving DecidableEq, Repr

inductive ModbusKind where
  | general
  | request
  | response
  | timeout
  deriving DecidableEq, Repr

/-- A failure of the operating system. Every class of them that is not named here is `general`. -/
inductive SystemKind where
  | general
  | connection
  | connectionReset
  | timeout
  deriving DecidableEq, Repr

/-- The kinds of failure that may come from behind a link. No kind stands for a refused call or for
an exception response: the client behind a link knows nothing of calls, and hands on an exception
response as a `Response`, so neither is raised there. -/
inductive DeviceKind where
  | modbus (kind : ModbusKind)
  | system (kind : SystemKind)
  | stack (kind : StackKind)
  /-- Any other kind, by its name. -/
  | other (name : String)
  deriving DecidableEq, Repr

structure DeviceFault where
  kind : DeviceKind
  detail : Text
  deriving DecidableEq, Repr

inductive Fault where
  | param (fault : ParamFault)
  | unknownMethod (name : String)
  | request (fault : RequestFault)
  | response (fault : ResponseFault)
  | exception (functionCode exceptionCode : Int)
  /-- Numbers or bytes do not make up the words that are asked of them. -/
  | notAWord (fault : WordFault)
  /-- A payload has fewer bits than are asked of it. -/
  | bitIndex
  | link (fault : LinkFault)
  | device (fault : DeviceFault)
  deriving DecidableEq, Repr

namespace ParamFault

def message : ParamFault → Text
  | required key => key ++ " required"
  | notNumber key => key ++ " should be number"
  | notInteger key => key ++ " should be int"
  | notByte key => key ++ " should be byte"
  | notWord key => key ++ " should be uint16"
  | notBit _ => "bad value. only 0 or 1 allowed"
  | notText key => key ++ " required and should be base64"
  | notBase64 fault => fault.message

def data (f : ParamFault) : List (String × Json) :=
  match f with
  | notBit value => [("msg", .text f.message), ("v", .int value)]
  | _ => [("msg", .text f.message)]

end ParamFault

def RequestFault.message : RequestFault → String
  | quantity given greatest =>
    "quantity '" ++ toString given ++ "' must be between '1' and '" ++ toString greatest ++ "'"
  | byteCount given => "byte count '" ++ toString given ++ "' must not exceed '255'"
  | byteCountFor given expected =>
    "byte count '" ++ toString given ++ "' does not match quantity, expected '" ++
      toString expected ++ "'"
  | coilState given =>
    "state '" ++ toString given ++ "' must be either 0xFF00 (ON) or 0x0000 (OFF)"

def ResponseFault.message : ResponseFault → String
  | fewBits received quantity =>
    "response bit count '" ++ toString received ++ "' is less than quantity '" ++
      toString quantity ++ "'"
  | registerCount received quantity =>
    "response register count '" ++ toString received ++ "' does not match quantity '" ++
      toString quantity ++ "'"
  | address received requested =>
    "response address '" ++ toString received ++ "' does not match request '" ++
      toString requested ++ "'"
  | value received requested =>
    "response value '" ++ received.elim "None" toString ++ "' does not match request '" ++
      toString requested ++ "'"
  | emptyAcknowledgement => "coil acknowledgement is empty"

def LinkFault.message : LinkFault → Text
  | noResponse link timeout => "no response from " ++ link ++ " within " ++ timeout ++ "s"
  | unreachable link => "unable to connect to " ++ link
  | broken text => text
  | transaction text => text
  | noEndpoint => ""

def StackKind.label : StackKind → String
  | general => ""
  | inputOutput => "[Input/Output] "
  | connection => "[Connection] "
  | parameter => "[Invalid Parameter] "
  | unknownUnit => "[No Such id] "
  | notImplemented => "[Not Implemented] "
  | registration => "[Error registering message] "

def DeviceFault.message (f : DeviceFault) : Text :=
  match f.kind with
  | .stack kind => "Modbus Error: " ++ kind.label ++ f.detail
  | _ => f.detail

def exceptionName (code : Int) : String :=
  if code = 1 then "illegal function"
  else if code = 2 then "illegal data address"
  else if code = 3 then "illegal data value"
  else if code = 4 then "server device failure"
  else if code = 5 then "acknowledge"
  else if code = 6 then "server device busy"
  else if code = 8 then "memory parity error"
  else if code = 10 then "gateway path unavailable"
  else if code = 11 then "gateway target device failed to respond"
  else "unknown"

namespace WordFault

/-- Numbers beyond this are refused before their place is looked at, as negative ones are. -/
def maxArgument : Int := 0xFFFFFFFFFFFFFFFF

def message : WordFault → String
  | range value =>
    if value < 0 ∨ maxArgument < value then "argument out of range"
    else "'H' format requires 0 <= number <= 65535"
  | wordCount given expected =>
    "pack expected " ++ toString expected ++ " items for packing (got " ++ toString given ++ ")"
  | byteCount expected => "unpack requires a buffer of " ++ toString expected ++ " bytes"

end WordFault

namespace Fault

def message : Fault → Text
  | param _ => "Invalid params"
  | unknownMethod _ => "Method not found"
  | request fault => fault.message
  | response fault => fault.message
  | exception functionCode exceptionCode =>
    "exception '" ++ toString exceptionCode ++ "' (" ++ exceptionName exceptionCode ++
      "), function '" ++ toString functionCode ++ "'"
  | notAWord fault => fault.message
  | bitIndex => "index out of range"
  | link fault => fault.message
  | device fault => fault.message

def isModbus : Fault → Bool
  | request _ | response _ | exception _ _ => true
  | link (.noResponse _ _) | link (.transaction _) => true
  | device ⟨.modbus _, _⟩ => true
  | _ => false

/-- Is it a failure of the operating system, as a missed deadline is too? -/
def isSystem : Fault → Bool
  | link (.noResponse _ _) | link (.unreachable _) | link (.broken _) => true
  | device ⟨.system _, _⟩ | device ⟨.modbus .timeout, _⟩ => true
  | _ => false

end Fault

end ModbusRpc
