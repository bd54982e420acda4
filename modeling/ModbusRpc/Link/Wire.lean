import ModbusRpc.Decimal.Notation
import ModbusRpc.Modbus.Framer

/-! # Wires

A wire says what a link is opened to and how long an answer may take.
-/

namespace ModbusRpc

inductive Endpoint where
  | tcp (host : Text) (port : Int)
  | serial (port : Text) (baudrate bytesize : Int) (parity : Text) (stopbits : Int)
  deriving DecidableEq, Repr

structure TcpAddress where
  host : Text
  port : Int := 502

structure SerialLine where
  port : Text
  baudrate : Int := 19200
  bytesize : Int := 8
  parity : Text := "E"
  stopbits : Int := 1

def TcpAddress.endpoint (a : TcpAddress) : Endpoint := .tcp a.host a.port

def SerialLine.endpoint (l : SerialLine) : Endpoint :=
  .serial l.port l.baudrate l.bytesize l.parity l.stopbits

inductive Timeout where
  | real (seconds : Float)
  | whole (seconds : Int)

def Timeout.text : Timeout → String
  | real seconds => plainNotation.render seconds
  | whole seconds => toString seconds

def Endpoint.description : Endpoint → Text
  | tcp host port => host ++ ":" ++ toString port
  | serial port baudrate _ _ _ => port ++ "@" ++ toString baudrate

structure Wire where
  endpoint : Endpoint
  timeout : Timeout := .real 1.0

def Wire.description (w : Wire) : Text := w.endpoint.description

structure ClientOptions where
  wire : Wire
  framer : Framer
  retries : Nat

/-- Clients never repeat a request by themselves. -/
def Wire.options (w : Wire) (framer : Framer) : ClientOptions := ⟨w, framer, 0⟩

end ModbusRpc
