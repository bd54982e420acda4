import ModbusRpc.Link.Wire
import ModbusRpc.Log.Record

/-! # Activities on a link

A link holds at most one client at a time, and remembers for which framer it was created. An
activity may change both, and reports what it did to clients and what it wrote to the log, in order.
Requests are of any type `ρ`: a link hands them on and does not look into them.
-/

namespace ModbusRpc

/-- A client, known by the number of clients created before it. -/
structure Client where
  number : Nat
  connected : Bool
  deriving DecidableEq, Repr

structure Link where
  client : Option Client := none
  framer : Option Framer := none
  created : Nat := 0
  deriving DecidableEq, Repr

namespace Link

def connected (l : Link) : Bool := l.client.any Client.connected

def forget (l : Link) : Link := { l with client := none, framer := none }

def renew (l : Link) (framer : Framer) : Link :=
  ⟨some ⟨l.created, false⟩, some framer, l.created + 1⟩

def setConnected (l : Link) (on : Bool) : Link :=
  { l with client := l.client.map ({ · with connected := on }) }

def lose (l : Link) : Link := l.setConnected false

section Fields

variable {l : Link} {c : Client} {framer : Framer} {on : Bool}

@[simp] theorem client_forget : l.forget.client = none := rfl
@[simp] theorem framer_forget : l.forget.framer = none := rfl
@[simp] theorem created_forget : l.forget.created = l.created := rfl
@[simp] theorem connected_forget : l.forget.connected = false := rfl

@[simp] theorem client_renew : (l.renew framer).client = some ⟨l.created, false⟩ := rfl
@[simp] theorem framer_renew : (l.renew framer).framer = some framer := rfl
@[simp] theorem created_renew : (l.renew framer).created = l.created + 1 := rfl

@[simp] theorem framer_setConnected : (l.setConnected on).framer = l.framer := rfl
@[simp] theorem created_setConnected : (l.setConnected on).created = l.created := rfl

theorem client_setConnected (h : l.client = some c) :
    (l.setConnected on).client = some { c with connected := on } := by
  simp [setConnected, h]

theorem client_setConnected_of_none (h : l.client = none) : (l.setConnected on).client = none := by
  simp [setConnected, h]

end Fields

end Link

inductive Event (ρ : Type) where
  /-- A client is created, or fails to be: then it gets no number. -/
  | create (options : ClientOptions) (number : Option Nat)
  | connect (number : Nat)
  | request (number : Nat) (request : ρ)
  /-- The device is about to answer, or to fail. -/
  | reply (number : Nat)
  | close (number : Nat)

/-- An event, and the state of the link when it happened. -/
structure Moment (ρ : Type) where
  link : Link
  event : Event ρ

structure Report (ρ α : Type) where
  value : α
  link : Link
  moments : List (Moment ρ)
  logs : List LogRecord

def Report.events {ρ α : Type} (r : Report ρ α) : List (Event ρ) := r.moments.map Moment.event

def Activity (ρ α : Type) : Type := Link → Report ρ α

namespace Activity

variable {ρ α β : Type}

instance : Monad (Activity ρ) where
  pure a := fun l => ⟨a, l, [], []⟩
  bind x f := fun l =>
    let r := x l
    let s := f r.value r.link
    ⟨s.value, s.link, r.moments ++ s.moments, r.logs ++ s.logs⟩

def link : Activity ρ Link := fun l => ⟨l, l, [], []⟩

def modify (f : Link → Link) : Activity ρ Unit := fun l => ⟨(), f l, [], []⟩

def event (e : Event ρ) : Activity ρ Unit := fun l => ⟨(), l, [⟨l, e⟩], []⟩

def log (severity : Severity) (component : Component) (message : Text) : Activity ρ Unit :=
  fun l => ⟨(), l, [], [⟨severity, component, message⟩]⟩

variable {l : Link} {a : α} {x : Activity ρ α} {f : α → Activity ρ β}

@[simp] theorem pure_apply : (pure a : Activity ρ α) l = ⟨a, l, [], []⟩ := rfl

@[simp] theorem bind_apply : (x >>= f) l =
    ⟨(f (x l).value (x l).link).value, (f (x l).value (x l).link).link,
      (x l).moments ++ (f (x l).value (x l).link).moments,
      (x l).logs ++ (f (x l).value (x l).link).logs⟩ := rfl

@[simp] theorem map_apply {g : α → β} :
    (g <$> x) l = ⟨g (x l).value, (x l).link, (x l).moments, (x l).logs⟩ := by
  change (x >>= fun a => pure (g a)) l = _
  simp

@[simp] theorem link_apply : (link : Activity ρ Link) l = ⟨l, l, [], []⟩ := rfl

@[simp] theorem modify_apply {f : Link → Link} : (modify f : Activity ρ Unit) l =
    ⟨(), f l, [], []⟩ := rfl

@[simp] theorem event_apply {e : Event ρ} : event e l = ⟨(), l, [⟨l, e⟩], []⟩ := rfl

@[simp] theorem log_apply {severity : Severity} {component : Component} {message : Text} :
    (log severity component message : Activity ρ Unit) l =
      ⟨(), l, [], [⟨severity, component, message⟩]⟩ := rfl

instance : LawfulMonad (Activity ρ) :=
  .mk' _
    (fun x => funext fun l => by simp)
    (fun a f => funext fun l => by simp)
    (fun x f g => funext fun l => by simp)

end Activity

end ModbusRpc
