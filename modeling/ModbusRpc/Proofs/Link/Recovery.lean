import ModbusRpc.Proofs.Link.Transaction
import ModbusRpc.Proofs.Link.Use

/-! # Recovery of a link

Whatever has happened on a link, a use of it succeeds as soon as the device cooperates. What is done
before the request is told by the state of the link: nothing if it has a connected client for the
framer, and otherwise whatever it takes to get one.
-/

namespace ModbusRpc.Link

variable {ρ : Type} {w : Wire} {plan : Plan ρ} {framer : Framer} {request : ρ} {l : Link}
  {response : Response} {n : Nat} {opening : List (Event ρ)}

/-- Everything that a use of a link needs succeeds: creating a client, if the link has none for the
framer; connecting it, if it is not connected; and the request. -/
structure Cooperates (l : Link) (plan : Plan ρ) (framer : Framer) (request : ρ)
    (response : Response) : Prop where
  create : ¬ l.Serves framer → plan.create = .ok ()
  connect : ¬ (l.Serves framer ∧ l.connected = true) → plan.connect = .ok true
  reply : plan.reply request = .ok response

structure Recovers (w : Wire) (framer : Framer) (request : ρ) (l : Link) (response : Response)
    (r : Report ρ (Except Fault Response)) (opening : List (Event ρ)) (n : Nat) : Prop where
  opens : Opening w framer l opening n
  value : r.value = .ok response
  client : r.link.client = some ⟨n, true⟩
  framer_eq : r.link.framer = some framer
  events : r.events = opening ++ [.request n request, .reply n]

theorem Cooperates.reaches (h : Cooperates l plan framer request response) :
    Reaches l plan framer := ⟨h.create, h.connect⟩

theorem execute_recovers (h : Cooperates l plan framer request response) :
    ∃ opening n, Recovers w framer request l response (execute w plan framer request l)
      opening n := by
  have hu := execute_use w plan framer request l
  obtain ⟨opening, n, ho, ⟨-, hv, hk⟩ | ⟨fault, ha, -⟩⟩ := hu.of_reaches h.reaches
  · rw [h.reply] at hv
    exact ⟨opening, n, ho, hv, hk.client, hk.framer_eq, hk.events⟩
  · cases h.reply.symm.trans ha

theorem Opening.silent (h : Opening w framer l opening n) :
    opening.filterMap Event.asked? = [] := by
  cases h <;> rfl

namespace Recovers

variable {r : Report ρ (Except Fault Response)}

theorem events_asked (h : Recovers w framer request l response r opening n) :
    r.events.filterMap Event.asked? = [request] := by
  rw [h.events, List.filterMap_append, h.opens.silent]
  rfl

theorem connected (h : Recovers w framer request l response r opening n) :
    r.link.connected = true := by
  simp [Link.connected, h.client]

end Recovers

end ModbusRpc.Link
