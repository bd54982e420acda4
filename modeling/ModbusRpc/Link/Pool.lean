import ModbusRpc.Link.Task

/-! # Jobs that share a link

One job at a time has the link, and keeps it while it waits for a connection or an answer. The
others queue for it in the order in which they asked. A pool goes on by one section of one member at
a time, and a schedule says whose turn it is; a member that cannot go on lets its turn pass. Asking
for the link is a section of its own, so that a member may be held up before it takes a free link.
-/

namespace ModbusRpc.Link

variable {ρ : Type}

inductive Stand where
  | fresh
  | queued
  | holding (wait : Wait)
  | ended (outcome : Outcome)

def Stand.outcome? : Stand → Option Outcome
  | ended outcome => some outcome
  | _ => none

structure Member (ρ : Type) where
  job : Job ρ
  stand : Stand := .fresh

/-- Jobs that share a link: which of them has it, which have asked for it, and which have had it so
far, the holder included, in the order in which they took it. -/
structure Pool (ρ : Type) where
  members : List (Member ρ)
  holder : Option Nat := none
  queue : List Nat := []
  served : List Nat := []

namespace Pool

def ofJobs (jobs : List (Job ρ)) : Pool ρ := { members := jobs.map fun job => { job } }

def ofTasks (tasks : List (Task ρ)) : Pool ρ := ofJobs (tasks.map fun task => { task := some task })

def stand? (p : Pool ρ) (i : Nat) : Option Stand := p.members[i]?.map Member.stand

def outcome? (p : Pool ρ) (i : Nat) : Option Outcome := (p.stand? i).bind Stand.outcome?

def setStand (p : Pool ρ) (i : Nat) (stand : Stand) : Pool ρ :=
  { p with members := p.members.modify i ({ · with stand }) }

/-- The pool after a section of member `i`, which has the link and gives it back at its end. -/
def advance (p : Pool ρ) (i : Nat) : Next → Pool ρ
  | .waits wait => { p.setStand i (.holding wait) with holder := some i }
  | .ends outcome => { p.setStand i (.ended outcome) with holder := none }

def start (p : Pool ρ) (i : Nat) (job : Job ρ) : Activity ρ (Pool ρ) := do
  if job.afterLoss then Activity.modify lose
  match job.task with
  | none => pure (p.setStand i (.ended (.ok none)))
  | some _ => pure { p.setStand i .queued with queue := p.queue ++ [i] }

/-- Member `i` takes the link if it is free and all that asked before have had it. -/
def take (w? : Option Wire) (p : Pool ρ) (i : Nat) (task : Task ρ) : Activity ρ (Pool ρ) := do
  if p.holder.isNone ∧ p.queue.head? = some i then
    let next ← task.enter w?
    pure ({ p with queue := p.queue.tail, served := p.served ++ [i] }.advance i next)
  else pure p

def step (w? : Option Wire) (p : Pool ρ) (i : Nat) : Activity ρ (Pool ρ) :=
  match p.members[i]? with
  | none => pure p
  | some m =>
    match m.stand, m.job.task with
    | .fresh, _ => p.start i m.job
    | .queued, some task => p.take w? i task
    | .holding wait, some task => do
      let next ← task.proceed w? wait
      pure (p.advance i next)
    | _, _ => pure p

def run (w? : Option Wire) : List Nat → Pool ρ → Activity ρ (Pool ρ)
  | [], p => pure p
  | i :: is, p => do
    let p ← p.step w? i
    run w? is p

/-- Everyone starts, and takes the link if it is free, before anyone goes on, and then each goes on
to its end: a task that has asked for the link has at most three sections to come. -/
def inOrder (count : Nat) : List Nat :=
  ((List.range count).flatMap fun i => [i, i]) ++ (List.range count).flatMap fun i => [i, i, i]

end Pool

def together (w? : Option Wire) (jobs : List (Job ρ)) : Activity ρ (List (Option Outcome)) := do
  let p ← (Pool.ofJobs jobs).run w? (Pool.inOrder jobs.length)
  pure (p.members.map fun m => m.stand.outcome?)

end ModbusRpc.Link
