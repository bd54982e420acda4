import ModbusRpc.Proofs.Modbus.Commands
import ModbusRpc.Rpc.Service

/-! # Calls in two halves

The name and the parameters of a call decide whether it is refused and which request it makes. What
the link answers to the request then decides the outcome. So over any link a call is one use of it,
between two functions that know nothing of the link.
-/

namespace ModbusRpc

/-- How the frames of a mode are written, whatever the unit. -/
inductive Mode.Frames : Mode → Framer → Prop where
  | tcp : Mode.Frames .tcp .socket
  | rtuOverTcp : Mode.Frames .rtuOverTcp .rtu
  | rtu : Mode.Frames .rtu .rtu
  | ascii : Mode.Frames .ascii .ascii

theorem Mode.frames_framer (mode : Mode) (unit : Int) : mode.Frames (mode.framer unit) := by
  cases mode with
  | tcp => exact .tcp
  | rtuOverTcp => exact .rtuOverTcp
  | rtu => exact .rtu
  | ascii => exact .ascii

namespace Service

structure Dispatch where
  method : Method
  operation : Operation
  request : Request

def dispatch (name : String) (ps : Params) : Except Fault Dispatch := do
  let (method, order) ← order name ps
  let request ← order.operation.request order.unit
  .ok ⟨method, order.operation, request⟩

def Dispatch.conclude (d : Dispatch) (response : Response) : Except Fault Value := do
  let payload ← d.operation.payload response
  d.method.value payload

theorem Dispatch.conclude_of_payload {d : Dispatch} {r : Response} {payload : List UInt8}
    (hm : d.method ≠ .writeCoil) (hp : d.operation.payload r = .ok payload) :
    d.conclude r = .ok (.list (payloadValues payload)) := by
  rw [Dispatch.conclude, hp]
  generalize d.method = k at hm
  cases k with
  | writeCoil => exact absurd rfl hm
  | _ => rfl

theorem order_eq_ok_iff {name : String} {ps : Params} {m : Method} {o : Order} :
    order name ps = .ok (m, o) ↔ m.name = name ∧ m.order ps = .ok o := by
  rw [← Method.ofName?_eq_some_iff]
  unfold order
  cases hm : Method.ofName? name with
  | none => simp
  | some k =>
    constructor
    · intro h
      cases ho : k.order ps with
      | error fault => simp [ho] at h
      | ok o' =>
        simp only [ho] at h
        cases h
        exact ⟨rfl, ho⟩
    · rintro ⟨hk, ho⟩
      cases hk
      simp [ho]

theorem dispatch_eq_ok_iff {name : String} {ps : Params} {d : Dispatch} :
    dispatch name ps = .ok d ↔ d.method.name = name ∧
      ∃ unit, d.method.order ps = .ok ⟨unit, d.operation⟩ ∧
        d.operation.request unit = .ok d.request := by
  unfold dispatch
  rw [bind_eq_ok_iff]
  constructor
  · rintro ⟨⟨m, o⟩, ho, h⟩
    obtain ⟨r, hr, h⟩ := bind_eq_ok_iff.mp h
    cases h
    obtain ⟨hn, ho⟩ := order_eq_ok_iff.mp ho
    exact ⟨hn, o.unit, ho, hr⟩
  · rintro ⟨hn, unit, ho, hr⟩
    exact ⟨_, order_eq_ok_iff.mpr ⟨hn, ho⟩, bind_eq_ok_iff.mpr ⟨_, hr, rfl⟩⟩

variable {m : Type → Type} [Monad m] [LawfulMonad m] {mode : Mode} {name : String}
  {ps : Option Params} (execute : Framer → Request → m (Except Fault Response))

theorem call_of_error {fault : Fault} (h : dispatch name (ps.getD []) = .error fault) :
    call execute mode name ps = pure (.error fault) := by
  unfold call
  rcases bind_eq_error_iff.mp h with ho | ⟨⟨method, o⟩, ho, h⟩
  · rw [ho]
  · rcases bind_eq_error_iff.mp h with hr | ⟨r, _, h⟩
    · simp [ho, Operation.perform, hr]
    · cases h

theorem call_of_ok {d : Dispatch} (h : dispatch name (ps.getD []) = .ok d) :
    call execute mode name ps =
      (fun answer => answer >>= d.conclude) <$>
        execute (mode.framer d.request.unit) d.request := by
  obtain ⟨hn, unit, ho, hr⟩ := dispatch_eq_ok_iff.mp h
  have ho := order_eq_ok_iff.mpr ⟨hn, ho⟩
  have hu : d.request.unit = unit := (Operation.request_eq_ok_iff.mp hr).1
  unfold call
  simp only [ho, Operation.perform, hr, hu, bind_assoc, map_eq_pure_bind]
  congr 1
  funext answer
  cases answer with
  | error fault => simp [bind, Except.bind]
  | ok response =>
    simp only [pure_bind]
    cases hp : d.operation.payload response <;> simp [Dispatch.conclude, bind, Except.bind, hp]

end Service

end ModbusRpc
