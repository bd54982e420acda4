import ModbusRpc.Link.Task

/-! # The sections of a use

What each section of a use reports, by the state of the link and by what the device does. A link
serves a framer if its client was created for that framer. Otherwise the client, if there is one, is
closed and another one is created.
-/

namespace ModbusRpc.Link

variable {ρ : Type} {w : Wire} {plan : Plan ρ} {framer : Framer} {request : ρ} {l : Link}
  {c : Client} {fault : DeviceFault}

def Serves (l : Link) (framer : Framer) : Prop := l.client.isSome ∧ l.framer = some framer

theorem serves_of_client (h : l.client = some c) (hf : l.framer = some framer) :
    l.Serves framer := ⟨by simp [h], hf⟩

/-! ### Closing -/

theorem closeClient_of_none (h : l.client = none) :
    (closeClient w : Activity ρ Unit) l = ⟨(), l, [], []⟩ := by
  simp [closeClient, h]

theorem closeClient_of_some (h : l.client = some c) :
    (closeClient w : Activity ρ Unit) l = ⟨(), l.forget, [⟨l, .close c.number⟩],
      [⟨.info, .link, "Closed " ++ w.description⟩]⟩ := by
  simp [closeClient, h]

theorem client_closeClient : ((closeClient w : Activity ρ Unit) l).link.client = none := by
  cases hc : l.client with
  | none => simp [closeClient_of_none hc, hc]
  | some c => simp [closeClient_of_some hc]

theorem created_closeClient :
    ((closeClient w : Activity ρ Unit) l).link.created = l.created := by
  cases hc : l.client with
  | none => simp [closeClient_of_none hc]
  | some c => simp [closeClient_of_some hc]

/-! ### Obtaining a client -/

theorem dropOther_of_serves (h : l.Serves framer) :
    (dropOther w framer : Activity ρ Unit) l = ⟨(), l, [], []⟩ := by
  simp [dropOther, h.2]

theorem dropOther_of_not_serves (h : ¬ l.Serves framer) :
    (dropOther w framer : Activity ρ Unit) l = closeClient w l := by
  cases hc : l.client with
  | none => simp [dropOther, hc, closeClient_of_none hc]
  | some c =>
    have hf : l.framer ≠ some framer := fun e => h (serves_of_client hc e)
    simp [dropOther, hc, hf]

theorem obtain_of_serves (h : l.client = some c) (hf : l.framer = some framer) :
    obtain w plan framer l = ⟨.ok c, l, [], []⟩ := by
  simp [obtain, dropOther_of_serves (serves_of_client h hf), h]

theorem obtain_of_create_ok (h : ¬ l.Serves framer) (hp : plan.create = .ok ()) :
    obtain w plan framer l =
      let r : Report ρ Unit := closeClient w l
      ⟨.ok ⟨l.created, false⟩, r.link.renew framer,
        r.moments ++ [⟨r.link, .create ⟨w, framer, 0⟩ (some l.created)⟩], r.logs⟩ := by
  simp [obtain, dropOther_of_not_serves h, client_closeClient, created_closeClient, hp,
    Wire.options]

theorem obtain_of_create_error (h : ¬ l.Serves framer) (hp : plan.create = .error fault) :
    obtain w plan framer l =
      let r : Report ρ Unit := closeClient w l
      ⟨.error (.device fault), r.link, r.moments ++ [⟨r.link, .create ⟨w, framer, 0⟩ none⟩],
        r.logs⟩ := by
  simp [obtain, dropOther_of_not_serves h, client_closeClient, hp, Wire.options]

section Waits

/-! ### Arriving

The records of the log are left open from here on. -/

variable (w plan request)

theorem arrive_of_connected (h : l.client = some c) (hf : l.framer = some framer)
    (hc : c.connected = true) :
    arrive w plan framer request l =
      ⟨.ok .answer, l, [⟨l, .request c.number request⟩], []⟩ := by
  simp [arrive, obtain_of_serves h hf, hc]

theorem arrive_of_lost (h : l.client = some c) (hf : l.framer = some framer)
    (hc : c.connected = false) :
    ∃ logs, arrive w plan framer request l =
      ⟨.ok .connection, l, [⟨l, .connect c.number⟩], logs⟩ := by
  simp [arrive, obtain_of_serves h hf, hc]

theorem arrive_of_create_ok (h : ¬ l.Serves framer) (hp : plan.create = .ok ()) :
    ∃ logs, arrive w plan framer request l =
      let r : Report ρ Unit := closeClient w l
      ⟨.ok .connection, r.link.renew framer,
        r.moments ++ [⟨r.link, .create ⟨w, framer, 0⟩ (some l.created)⟩,
          ⟨r.link.renew framer, .connect l.created⟩], logs⟩ := by
  simp [arrive, obtain_of_create_ok h hp]

theorem arrive_of_create_error (h : ¬ l.Serves framer) (hp : plan.create = .error fault) :
    ∃ logs, arrive w plan framer request l =
      let r : Report ρ Unit := closeClient w l
      ⟨.error (.device fault), r.link, r.moments ++ [⟨r.link, .create ⟨w, framer, 0⟩ none⟩],
        logs⟩ := by
  simp [arrive, obtain_of_create_error h hp]

/-! ### Connecting and asking -/

theorem resume_of_connect_error (hp : plan.connect = .error fault) :
    resume w plan request l = ⟨.error (.device fault), l, [], []⟩ := by
  simp [resume, hp]

theorem resume_of_refused (hp : plan.connect = .ok false) :
    ∃ logs, resume w plan request l =
      let r : Report ρ Unit := closeClient w l
      ⟨.error (.link (.unreachable w.description)), r.link, r.moments, logs⟩ := by
  simp [resume, hp]

theorem resume_of_connected (h : l.client = some c) (hp : plan.connect = .ok true) :
    ∃ logs, resume w plan request l =
      ⟨.ok (), l.setConnected true, [⟨l.setConnected true, .request c.number request⟩], logs⟩ := by
  simp [resume, hp, client_setConnected h]

end Waits

/-! ### Settling -/

theorem settle_of_client (h : l.client = some c) :
    settle w plan request l =
      let r : Report ρ Unit := heed w (plan.reply request) l
      ⟨verdict w (plan.reply request), r.link, ⟨l, .reply c.number⟩ :: r.moments, r.logs⟩ := by
  simp [settle, h]

theorem heed_of_kept {answer : Except DeviceFault Response}
    (ha : ∀ fault, answer = .error fault → fault.kind ≠ .stack .connection) :
    (heed w answer : Activity ρ Unit) l = ⟨(), l, [], []⟩ := by
  cases answer with
  | ok r => rfl
  | error fault => simp [heed, ha fault rfl]

theorem heed_of_broken (hk : fault.kind = .stack .connection) :
    ∃ logs, (heed w (.error fault) : Activity ρ Unit) l =
      let r : Report ρ Unit := closeClient w l
      ⟨(), r.link, r.moments, logs⟩ := by
  simp [heed, hk]

end ModbusRpc.Link
