import ModbusRpc.Log.Record
import ModbusRpc.Rpc.Call
import ModbusRpc.Rpc.Service

/-! # Answers to calls

A call is answered with its identity and either a value or an error object. Faults of parameters and
method names have codes of their own, faults of the transaction share one, and all others count as
internal.
-/

namespace ModbusRpc

inductive RpcErrorKind where
  | general
  | invalidParams
  | methodNotFound
  deriving DecidableEq, Repr

structure RpcError where
  kind : RpcErrorKind
  data : Members

namespace RpcErrorKind

def code : RpcErrorKind → Int
  | general => -32603
  | invalidParams => -32602
  | methodNotFound => -32601

def message : RpcErrorKind → String
  | general => "Internal error"
  | invalidParams => "Invalid params"
  | methodNotFound => "Method not found"

end RpcErrorKind

def RpcError.text (e : RpcError) : String :=
  if e.data.isEmpty then e.kind.message else e.kind.message ++ ": " ++ (Json.object e.data).display

def membersOf (fields : List (String × Json)) : Members :=
  fields.map fun f => (Text.ofString f.1, f.2)

/-- The error of a fault that lies with the caller. -/
def Fault.rpcError? : Fault → Option RpcError
  | .param fault => some ⟨.invalidParams, membersOf fault.data⟩
  | .unknownMethod name => some ⟨.methodNotFound, membersOf [("method", .ofString name)]⟩
  | _ => none

structure ErrorObject where
  code : Int
  message : String
  data : Members

def ErrorObject.toJson (e : ErrorObject) : Json :=
  .ofFields [("code", .int e.code), ("message", .ofString e.message), ("data", .object e.data)]

def RpcError.toObject (e : RpcError) : ErrorObject := ⟨e.kind.code, e.kind.message, e.data⟩

namespace Fault

/-- Did the transaction fail, rather than the gateway itself? -/
def isTransaction (f : Fault) : Bool := f.isModbus || f.isSystem

def exceptionCode? : Fault → Option Int
  | exception _ code => some code
  | _ => none

def transactionData (f : Fault) : List (String × Json) :=
  ("msg", .text f.message) ::
    match f.exceptionCode? with
    | some code => [("exception_code", .int code)]
    | none => []

def toObject (f : Fault) : ErrorObject :=
  match f.rpcError? with
  | some e => e.toObject
  | none =>
    if f.isTransaction then ⟨-32000, "Server error", membersOf f.transactionData⟩
    else ⟨-32603, "Internal error", membersOf [("msg", .text f.message)]⟩

/-- What is logged about a fault before the link is used: a method that does not exist. -/
def notices : Fault → List LogRecord
  | unknownMethod name => [⟨.warning, .service, "Unknown method: " ++ name⟩]
  | _ => []

def complaints (f : Fault) (method : String) : List LogRecord :=
  if f.rpcError?.isSome then []
  else if f.isTransaction then [⟨.error, .calls, method ++ " failed: " ++ f.message⟩]
  else [⟨.error, .calls, method ++ " failed unexpectedly"⟩]

end Fault

structure Reply where
  id : CallId
  outcome : Except ErrorObject Value

def Reply.toJson (r : Reply) : Json :=
  .ofFields [("jsonrpc", .ofString Call.version), ("id", r.id.toJson),
    match r.outcome with
    | .ok v => ("result", v.toJson)
    | .error e => ("error", e.toJson)]

def Call.reply (c : Call) (outcome : Except Fault Value) : Reply :=
  ⟨c.id, outcome.mapError Fault.toObject⟩

end ModbusRpc
