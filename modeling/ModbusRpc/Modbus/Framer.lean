import ModbusRpc.Text.Quoted

/-! # Modes and framers

A mode is a variant of Modbus. It decides how frames are written on the link, for all units alike.
-/

namespace ModbusRpc

inductive NameFault where
  | framer (name : Text)
  | mode (name : Text)
  deriving DecidableEq, Repr

def NameFault.message : NameFault → Text
  | framer name => name.quoted ++ " is not a valid FramerType"
  | mode name => "unknown Modbus mode '" ++ name ++ "'"

inductive Framer where
  | ascii
  | rtu
  | socket
  | tls
  deriving DecidableEq, Repr

namespace Framer

def name : Framer → String
  | ascii => "ascii"
  | rtu => "rtu"
  | socket => "socket"
  | tls => "tls"

def all : List Framer := [ascii, rtu, socket, tls]

def ofName? (s : String) : Option Framer := all.find? fun f => f.name = s

@[simp] theorem ofName?_name (f : Framer) : ofName? f.name = some f := by cases f <;> decide

end Framer

inductive Mode where
  | tcp
  | rtuOverTcp
  | rtu
  | ascii
  deriving DecidableEq, Repr

namespace Mode

def name : Mode → String
  | tcp => "tcp"
  | rtuOverTcp => "rtuovertcp"
  | rtu => "rtu"
  | ascii => "ascii"

def all : List Mode := [tcp, rtuOverTcp, rtu, ascii]

def ofName? (s : String) : Option Mode := all.find? fun m => m.name = s

/-- The framer for a unit; every unit of a link has the same. -/
def framer (m : Mode) (_unit : Int) : Framer :=
  match m with
  | tcp => .socket
  | rtuOverTcp | rtu => .rtu
  | ascii => .ascii

def isTcp : Mode → Bool
  | tcp | rtuOverTcp => true
  | rtu | ascii => false

@[simp] theorem ofName?_name (m : Mode) : ofName? m.name = some m := by cases m <;> decide

end Mode

end ModbusRpc
