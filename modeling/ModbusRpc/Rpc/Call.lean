import ModbusRpc.Rpc.Params
import ModbusRpc.Validation.Value

/-! # Calls as they are received

A call names a method and carries parameters, and perhaps an identity that the answer repeats. It
is read from an object, of which other members are ignored.
-/

namespace ModbusRpc

inductive CallId where
  | none
  | number (n : Int)
  | text (t : Text)
  deriving DecidableEq, Repr

def CallId.toJson : CallId → Json
  | none => .null
  | number n => .int n
  | text t => .text t

structure Call where
  id : CallId
  method : String
  params : Option Params

namespace Call

open Validation

def version : String := "2.0"

def checkVersion (ms : Members) : Checked Unit :=
  match ms.get? (Text.ofString "jsonrpc") with
  | none => ⟨(), []⟩
  | some v => Checked.of ["jsonrpc"] v () (choice [(version, ())] v)

/-- An identity is null, a text or an integer; a value that is none of them is neither of the last
two. -/
def checkId (ms : Members) : Checked CallId :=
  match ms.get? (Text.ofString "id") with
  | none | some .null => ⟨.none, []⟩
  | some (.text t) => ⟨.text t, []⟩
  | some v =>
    match integer v with
    | .ok n => ⟨.number n, []⟩
    | .error flaw => ⟨.none, [⟨["id", "int"], flaw, v⟩, ⟨["id", "str"], .notText, v⟩]⟩

def methodName (v : Json) : Except Flaw String := do
  let s ← string v
  if s.isEmpty then .error .emptyText else .ok s

def checkMethod (ms : Members) : Checked String :=
  match ms.get? (Text.ofString "method") with
  | none => ⟨"", [⟨["method"], .missing, .object ms⟩]⟩
  | some v => Checked.of ["method"] v "" (methodName v)

def checkParams (ms : Members) : Checked (Option Params) :=
  match ms.get? (Text.ofString "params") with
  | none | some .null => ⟨none, []⟩
  | some (.object ps) => ⟨some ps, []⟩
  | some v => ⟨none, [⟨["params"], .notObject, v⟩]⟩

def check (ms : Members) : Checked Call := do
  checkVersion ms
  let id ← checkId ms
  let method ← checkMethod ms
  let params ← checkParams ms
  pure ⟨id, method, params⟩

/-- The call that a value describes, or everything that is wrong with it. -/
def ofJson : Json → Except (List Issue) Call
  | .object ms => (check ms).result
  | v => .error [⟨[], .notFields, v⟩]

end Call

end ModbusRpc
