import ModbusRpc.Gateway.App

/-! # Cycles of a gateway

A gateway may be started and shut down several times. Each cycle has a link of its own, while the
log stays, and so does the count of clients. In a cycle the gateway answers one request after
another.
-/

namespace ModbusRpc

/-- A new link, behind which clients are numbered on. -/
def Link.fresh (l : Link) : Link := { created := l.created }

/-- A request to a gateway, what the device does meanwhile, and whether the connection of the link
is lost just before. -/
structure Visit where
  afterLoss : Bool := false
  plan : Plan Request
  request : Http.Request

namespace App

def visit (a : App) (v : Visit) : Activity Request Http.Response := do
  if v.afterLoss then Activity.modify Link.lose
  a.respond v.plan v.request

def serve (a : App) : List Visit → Activity Request (List Http.Response)
  | [] => pure []
  | v :: vs => do
    let response ← a.visit v
    let responses ← a.serve vs
    pure (response :: responses)

/-- What a start leaves to the cycle that it begins: a new link, and what has been written. -/
def begins (records : List LogRecord) : Activity Request Unit :=
  fun l => ⟨(), l.fresh, [], records⟩

@[simp] theorem begins_apply {records : List LogRecord} {l : Link} :
    begins records l = ⟨(), l.fresh, [], records⟩ := rfl

/-- A cycle from the start of a gateway to its end. If it does not start, nothing is served. -/
def cycle (log : Log) (s : Settings) (vs : List Visit) :
    Activity Request (Log × Except LevelFault (List Http.Response)) :=
  match start log s with
  | (log, .error fault) => pure (log, .error fault)
  | (log, .ok (a, records)) => do
    begins records
    let responses ← a.serve vs
    a.stop
    pure (log, .ok responses)

def cycles (s : Settings) : Log → List (List Visit) →
    Activity Request (Log × List (Except LevelFault (List Http.Response)))
  | log, [] => pure (log, [])
  | log, vs :: rest => do
    let (log, responses) ← cycle log s vs
    let (log, others) ← cycles s log rest
    pure (log, responses :: others)

end App

end ModbusRpc
