import ModbusRpc.Text.Basic

/-! # Log records

A record is a line with a severity, written by one component of the gateway.
-/

namespace ModbusRpc

inductive Severity where
  | debug
  | info
  | warning
  | error
  | critical
  deriving DecidableEq, Repr

namespace Severity

def name : Severity → String
  | debug => "DEBUG"
  | info => "INFO"
  | warning => "WARNING"
  | error => "ERROR"
  | critical => "CRITICAL"

def number : Severity → Nat
  | debug => 10
  | info => 20
  | warning => 30
  | error => 40
  | critical => 50

def all : List Severity := [debug, info, warning, error, critical]

end Severity

structure Component where
  name : Text
  deriving DecidableEq, Repr

namespace Component

/-- The component above all others, which also stands for one without a name. -/
def root : Component := ⟨"root"⟩

def ofName (name : Text) : Component := if name.isEmpty then root else ⟨name⟩

def link : Component := ⟨"modbus_gateway.transport.base"⟩
def service : Component := ⟨"modbus_gateway.handler.service"⟩
def calls : Component := ⟨"modbus_gateway.api.routes"⟩
def app : Component := ⟨"modbus_gateway.main"⟩

end Component

structure LogRecord where
  severity : Severity
  component : Component
  message : Text
  deriving DecidableEq, Repr

end ModbusRpc
