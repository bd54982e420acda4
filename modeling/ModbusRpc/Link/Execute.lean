import ModbusRpc.Link.Activity
import ModbusRpc.Link.Device

/-! # Using a link

The client of a link is created for the framer of the first request, replaced when another framer
is asked for, connected on first use and again after it has lost its connection. Every use makes at
most one request. A use is made of sections between the points where it waits: for the connection,
and for the answer.
-/

namespace ModbusRpc.Link

inductive Wait where
  | connection
  | answer
  deriving DecidableEq, Repr

variable {ρ : Type} (w : Wire) (plan : Plan ρ) (framer : Framer) (request : ρ)

def closeClient : Activity ρ Unit := do
  match (← Activity.link).client with
  | none => pure ()
  | some c =>
    Activity.event (.close c.number)
    Activity.modify forget
    Activity.log .info .link ("Closed " ++ w.description)

def dropOther : Activity ρ Unit := do
  let l ← Activity.link
  if l.client.isSome ∧ l.framer ≠ some framer then closeClient w

def obtain : Activity ρ (Except Fault Client) := do
  dropOther w framer
  let l ← Activity.link
  match l.client with
  | some c => pure (.ok c)
  | none =>
    match plan.create with
    | .error fault =>
      Activity.event (.create (w.options framer) none)
      pure (.error (.device fault))
    | .ok () =>
      Activity.event (.create (w.options framer) (some l.created))
      Activity.modify (renew · framer)
      pure (.ok ⟨l.created, false⟩)

/-- From the start of a use to where it first waits. -/
def arrive : Activity ρ (Except Fault Wait) := do
  match ← obtain w plan framer with
  | .error fault => pure (.error fault)
  | .ok c =>
    if c.connected then
      Activity.event (.request c.number request)
      pure (.ok .answer)
    else
      Activity.log .info .link
        ("Connecting to " ++ w.description ++ " (" ++ framer.name ++ " framer)")
      Activity.event (.connect c.number)
      pure (.ok .connection)

/-- From the outcome of connecting to the request. -/
def resume : Activity ρ (Except Fault Unit) := do
  match plan.connect with
  | .error fault => pure (.error (.device fault))
  | .ok false =>
    Activity.log .error .link ("Failed to connect to " ++ w.description)
    closeClient w
    pure (.error (.link (.unreachable w.description)))
  | .ok true =>
    Activity.modify (setConnected · true)
    Activity.log .info .link ("Connected to " ++ w.description)
    match (← Activity.link).client with
    | some c => Activity.event (.request c.number request)
    | none => pure ()
    pure (.ok ())

/-- What a use makes of a failure instead of an answer. -/
def failure (fault : DeviceFault) : Fault :=
  match fault.kind with
  | .stack .inputOutput => .link (.noResponse w.description w.timeout.text)
  | .stack .connection => .link (.broken fault.message)
  | .stack _ => .link (.transaction fault.message)
  | _ => .device fault

def verdict (answer : Except DeviceFault Response) : Except Fault Response :=
  answer.mapError (failure w)

/-- What an answer, or a failure instead, does to the link: a broken connection is closed. -/
def heed : Except DeviceFault Response → Activity ρ Unit
  | .ok _ => pure ()
  | .error fault =>
    if fault.kind = .stack .connection then do
      Activity.log .error .link ("I/O error on " ++ w.description ++ ": " ++ fault.message)
      closeClient w
    else pure ()

def settle : Activity ρ (Except Fault Response) := do
  match (← Activity.link).client with
  | some c => Activity.event (.reply c.number)
  | none => pure ()
  heed w (plan.reply request)
  pure (verdict w (plan.reply request))

def execute : Activity ρ (Except Fault Response) := do
  match ← arrive w plan framer request with
  | .error fault => pure (.error fault)
  | .ok .answer => settle w plan request
  | .ok .connection =>
    match ← resume w plan request with
    | .error fault => pure (.error fault)
    | .ok () => settle w plan request

end ModbusRpc.Link
