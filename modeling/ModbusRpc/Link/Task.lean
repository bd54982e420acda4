import ModbusRpc.Link.Execute

/-! # Tasks on a link

A task either uses the link once or closes it. It can be run as a whole, or by the sections between
the points where it waits. The connection of a link may be lost at any time, which is no task.
-/

namespace ModbusRpc.Link

variable {ρ : Type}

inductive Task (ρ : Type) where
  | execute (plan : Plan ρ) (framer : Framer) (request : ρ)
  | close

/-- How a task ends: with a response if it was a use, without one if it closed the link. -/
abbrev Outcome := Except Fault (Option Response)

inductive Next where
  | waits (wait : Wait)
  | ends (outcome : Outcome)

namespace Task

/-- Runs a task. Only a link that has a wire can be used; any link can be closed. -/
def run (w? : Option Wire) : Task ρ → Activity ρ Outcome
  | close => do
    match w? with
    | some w => closeClient w
    | none => pure ()
    pure (.ok none)
  | execute plan framer request =>
    match w? with
    | none => pure (.error (.link .noEndpoint))
    | some w => do
      let outcome ← Link.execute w plan framer request
      pure (outcome.map some)

def enter (w? : Option Wire) : Task ρ → Activity ρ Next
  | close => do
    match w? with
    | some w => closeClient w
    | none => pure ()
    pure (.ends (.ok none))
  | execute plan framer request =>
    match w? with
    | none => pure (.ends (.error (.link .noEndpoint)))
    | some w => do
      match ← arrive w plan framer request with
      | .error fault => pure (.ends (.error fault))
      | .ok wait => pure (.waits wait)

def proceed (w? : Option Wire) (wait : Wait) : Task ρ → Activity ρ Next
  | close => pure (.ends (.ok none))
  | execute plan _ request =>
    match w?, wait with
    | none, _ => pure (.ends (.error (.link .noEndpoint)))
    | some w, .connection => do
      match ← resume w plan request with
      | .error fault => pure (.ends (.error fault))
      | .ok () => pure (.waits .answer)
    | some w, .answer => do
      let outcome ← settle w plan request
      pure (.ends (outcome.map some))

end Task

/-- A task, or none, and whether the connection of the link is lost just before. -/
structure Job (ρ : Type) where
  afterLoss : Bool := false
  task : Option (Task ρ)

def Job.run (w? : Option Wire) (job : Job ρ) : Activity ρ Outcome := do
  if job.afterLoss then Activity.modify lose
  match job.task with
  | none => pure (.ok none)
  | some task => task.run w?

def inTurn (w? : Option Wire) : List (Job ρ) → Activity ρ (List Outcome)
  | [] => pure []
  | job :: jobs => do
    let outcome ← job.run w?
    let outcomes ← inTurn w? jobs
    pure (outcome :: outcomes)

def describe (w? : Option Wire) : Except Fault Text :=
  match w? with
  | some w => .ok w.description
  | none => .error (.link .noEndpoint)

end ModbusRpc.Link
