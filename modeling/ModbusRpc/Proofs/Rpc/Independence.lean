import ModbusRpc.Proofs.Link.Recovery
import ModbusRpc.Proofs.Rpc.Gate

/-! # Calls and the history of their link

No failure leaves a link in a state that a later use cannot recover from. A call over a link whose
device cooperates ends as its parameters and the response of the device say, whatever has been done
with the link before.
-/

namespace ModbusRpc.Service

open Link

variable {w : Wire} {l : Link} {plan : Plan Request} {mode : Mode} {name : String}
  {ps : Option Params} {response : Response}

theorem value_call_of_cooperates
    (h : ∀ s ∈ sent (fun _ => .ok response) mode name ps, Cooperates l plan s.1 s.2 response) :
    (call (execute w plan) mode name ps l).value =
      dispatch name (ps.getD []) >>= fun d => d.conclude response := by
  cases hd : dispatch name (ps.getD []) with
  | error fault =>
    rw [call_of_error _ hd]
    rfl
  | ok d =>
    have hs := h (mode.framer d.request.unit, d.request) (by rw [sent_of_ok _ _ hd]; simp)
    obtain ⟨opening, n, hr⟩ := execute_recovers (w := w) hs
    rw [call_of_ok _ hd, Activity.map_apply, hr.value]
    rfl

/-- Whatever has been done with a link, a use of it with a device that cooperates gets its response
by one request, after what it takes to open the link, and leaves the link connected for its framer.
So a call that the device answers with this response ends alike after any two histories. -/
theorem recovers_from_any_history (w : Wire) :
    (∀ {ρ : Type} (jobs : List (Job ρ)) (plan : Plan ρ) (framer : Framer) (request : ρ)
        (response : Response),
      let h := inTurn (some w) jobs {}
      let r := execute w plan framer request h.link
      Cooperates h.link plan framer request response →
        r.value = .ok response ∧ r.events.filterMap Event.asked? = [request] ∧
        r.link.connected = true ∧
        ∃ opening n, Opening w framer h.link opening n ∧
          r.events = opening ++ [.request n request, .reply n] ∧
          r.link.client = some ⟨n, true⟩ ∧ r.link.framer = some framer ∧
          ∀ options, .create options (some n) ∈ h.events ++ r.events ↔
            options.wire = w ∧ options.framer = framer ∧ options.retries = 0) ∧
    ∀ (w' : Wire) (jobs jobs' : List (Job Request)) (plan plan' : Plan Request) (mode mode' : Mode)
        (name : String) (ps : Option Params) (response : Response),
      let l := (inTurn (some w) jobs {}).link
      let l' := (inTurn (some w') jobs' {}).link
      (∀ s ∈ sent (fun _ => .ok response) mode name ps, Cooperates l plan s.1 s.2 response) →
      (∀ s ∈ sent (fun _ => .ok response) mode' name ps, Cooperates l' plan' s.1 s.2 response) →
        (call (execute w plan) mode name ps l).value =
          (call (execute w' plan') mode' name ps l').value := by
  constructor
  · intro ρ jobs plan framer request response h r hc
    obtain ⟨opening, n, hr⟩ := execute_recovers (w := w) hc
    have hl : Ledger w r.link (h.events ++ r.events) :=
      (ledger_inTurn w jobs).course (follows_execute plan framer request h.link)
    exact ⟨hr.value, hr.events_asked, hr.connected, opening, n, hr.opens, hr.events, hr.client,
      hr.framer_eq, hl.create_iff hr.client hr.framer_eq⟩
  · intro w' jobs jobs' plan plan' mode mode' name ps response l l' hc hc'
    exact (value_call_of_cooperates hc).trans (value_call_of_cooperates hc').symm

/-- One link has a connected client, so that nothing but the request has to succeed; another has
lost its client to a framer for which none could be created. -/
theorem recovers_after_failed_creation :
    let w : Wire := ⟨.tcp "localhost" 502, .whole 1⟩
    let refused : DeviceFault := ⟨.system .connection, "refused"⟩
    let q : Request := ⟨0, 4, .readWords .holdingRegisters 1⟩
    let ps : Params := [("address", .int 4), ("quantity", .int 1)]
    let r : Response := { registers := [7] }
    let last : Plan Request := ⟨.error refused, .error refused, fun _ => .ok r⟩
    let able : Plan Request := ⟨.ok (), .ok true, fun _ => .ok r⟩
    let kept : List (Job Request) := [⟨false, some (.execute Device.pattern .socket q)⟩]
    let spoilt : List (Job Request) := kept ++ [⟨true, some (.execute last .rtu q)⟩]
    let h := inTurn (some w) kept {}
    let h' := inTurn (some w) spoilt {}
    Cooperates h.link last .socket q r ∧ h'.link.client = none ∧
      (execute w last .socket q h.link).value = .ok r ∧
      (call (execute w last) .tcp "modbus-read-holding" (some ps) h.link).value =
        (call (execute w able) .tcp "modbus-read-holding" (some ps) h'.link).value := by
  intro w refused q ps r last able kept spoilt h h'
  have hl : h.link = ⟨some ⟨0, true⟩, some .socket, 1⟩ := by decide
  have hs : ∀ q, Cooperates h.link last .socket q r := fun q =>
    ⟨fun hn => absurd ⟨by rw [hl]; rfl, by rw [hl]⟩ hn,
      fun hn => absurd ⟨⟨by rw [hl]; rfl, by rw [hl]⟩, by rw [hl]; rfl⟩ hn, rfl⟩
  have hd : ∀ s ∈ sent (fun _ => .ok r) .tcp "modbus-read-holding" (some ps), s = (.socket, q) := by
    decide
  refine ⟨hs q, by decide, ((recovers_from_any_history w).1 kept last .socket q r (hs q)).1, ?_⟩
  refine (recovers_from_any_history w).2 w kept spoilt last able .tcp .tcp _ (some ps) r ?_ ?_
  · intro s hm
    obtain rfl := hd s hm
    exact hs q
  · exact fun s _ => ⟨fun _ => rfl, fun _ => rfl, rfl⟩

end ModbusRpc.Service
