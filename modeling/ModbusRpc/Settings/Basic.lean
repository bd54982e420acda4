import ModbusRpc.Link.Wire
import ModbusRpc.Validation.Value

/-! # Settings

Each setting has a default, may be set in the environment, and may be given directly, which counts
more. Names are matched in any case: of several spellings of one name the first that is given
counts, and the last in the environment.
-/

namespace ModbusRpc

inductive Parity where
  | none
  | even
  | odd
  deriving DecidableEq, Repr

namespace Parity

def letter : Parity → String
  | none => "N"
  | even => "E"
  | odd => "O"

def all : List Parity := [none, even, odd]

end Parity

structure Settings where
  mode : Mode := .tcp
  tcpHost : Text := "127.0.0.1"
  tcpPort : Int := 502
  serialPort : Text := "/dev/ttyUSB0"
  serialBaud : Int := 19200
  serialBytesize : Int := 8
  serialParity : Parity := .even
  serialStopbits : Int := 1
  timeout : Float := 1.0
  apiHost : Text := "0.0.0.0"
  apiPort : Int := 8000
  logLevel : Text := "INFO"

namespace Settings

def endpoint (s : Settings) : Endpoint :=
  if s.mode.isTcp then TcpAddress.endpoint ⟨s.tcpHost, s.tcpPort⟩
  else SerialLine.endpoint
    ⟨s.serialPort, s.serialBaud, s.serialBytesize, s.serialParity.letter, s.serialStopbits⟩

def wire (s : Settings) : Wire := ⟨s.endpoint, .real s.timeout⟩

def linkDescription (s : Settings) : Text :=
  if s.mode.isTcp then s.mode.name ++ "://" ++ s.tcpHost ++ ":" ++ toString s.tcpPort
  else s.mode.name ++ ":" ++ s.serialPort ++ "@" ++ toString s.serialBaud

def environmentMark : String := "MODBUS_GATEWAY_"

/-- Where settings come from: texts in the environment, and values that are given directly. -/
structure Sources where
  environment : List (Text × Text) := []
  given : Members := []

namespace Sources

def spells (key : Text) (name : String) : Bool :=
  key.chars?.any fun cs => cs.map Char.toLower = name.toList.map Char.toLower

def find? (s : Sources) (name : String) : Option Json :=
  match s.given.find? fun g => spells g.1 name with
  | some g => some g.2
  | none =>
    (s.environment.reverse.find? fun e => spells e.1 (environmentMark ++ name)).map
      fun e => .text e.2

def setting {α : Type} (s : Sources) (name : String) (check : Json → Except Flaw α)
    (default : α) : Checked α :=
  match s.find? name with
  | some v => Checked.of [name] v default (check v)
  | none => ⟨default, []⟩

def surplus (s : Sources) (names : List String) : List Issue :=
  (s.given.filter fun g => !names.any (spells g.1)).map fun g => ⟨[g.1], .surplus, g.2⟩

def brokenKey? (s : Sources) : Option Text :=
  (s.given.find? fun g => g.1.chars?.isNone).map Prod.fst

end Sources

def names : List String := ["mode", "tcp_host", "tcp_port", "serial_port", "serial_baud",
  "serial_bytesize", "serial_parity", "serial_stopbits", "timeout", "api_host", "api_port",
  "log_level"]

open Validation in
def check (s : Sources) : Checked Settings := do
  let d : Settings := {}
  let mode ← s.setting "mode" (choice (Mode.all.map fun m => (m.name, m))) d.mode
  let tcpHost ← s.setting "tcp_host" text d.tcpHost
  let tcpPort ← s.setting "tcp_port" integer d.tcpPort
  let serialPort ← s.setting "serial_port" text d.serialPort
  let serialBaud ← s.setting "serial_baud" integer d.serialBaud
  let serialBytesize ← s.setting "serial_bytesize" integer d.serialBytesize
  let serialParity ←
    s.setting "serial_parity" (choice (Parity.all.map fun p => (p.letter, p))) d.serialParity
  let serialStopbits ← s.setting "serial_stopbits" integer d.serialStopbits
  let timeout ← s.setting "timeout" float d.timeout
  let apiHost ← s.setting "api_host" text d.apiHost
  let apiPort ← s.setting "api_port" integer d.apiPort
  let logLevel ← s.setting "log_level" text d.logLevel
  (⟨(), s.surplus names⟩ : Checked Unit)
  pure ⟨mode, tcpHost, tcpPort, serialPort, serialBaud, serialBytesize, serialParity,
    serialStopbits, timeout, apiHost, apiPort, logLevel⟩

/-- The settings that the sources describe, or everything that is wrong with them. A key that is not
a string ends the check, and is all that is reported then. -/
def load (s : Sources) : Except (List Issue) Settings :=
  match s.brokenKey? with
  | some key => .error [⟨[], .brokenText, .text key⟩]
  | none => (check s).result

end Settings

end ModbusRpc
