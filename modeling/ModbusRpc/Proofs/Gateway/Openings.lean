import ModbusRpc.Proofs.Gateway.Replies

/-! # Calls on links that do not open

A fault of the protocol stack keeps its own form until the request is made, since only the request
is guarded. So a caller is told of an internal error when the stack cannot open the link, and of a
failed transaction when the connection is refused, or when the stack fails later.
-/

namespace ModbusRpc

namespace App

variable {log : Log} {s : Settings} {a : App} {records : List LogRecord} {plan : Plan Request}
  {r : Http.Request} {c : Call} {d : Service.Dispatch} {l : Link} {fault : DeviceFault}
  {kind : StackKind} {f : Fault} {e : ErrorObject}

def refusal (c : Call) (e : ErrorObject) : Http.Response :=
  Http.answered (Reply.toJson ⟨c.id, .error e⟩)

theorem value_respond_of_fault (hc : r.Carries c)
    (hd : Service.dispatch c.method (c.params.getD []) = .ok d)
    (hf : Link.Ends s.wire plan (s.mode.framer d.request.unit) d.request l (.error f))
    (he : f.Tells e) : ((ofSettings s).respond plan r l).value = refusal c e := by
  have hv := Link.value_execute_eq_iff.mpr hf
  rw [value_respond hc, Service.call_of_ok _ hd, Activity.map_apply]
  change Http.answered (c.reply ((Link.execute s.wire plan _ d.request l).value >>= _)).toJson = _
  rw [hv, ← he.eq]
  rfl

theorem tells_stack (hk : fault.kind = .stack kind) :
    (Fault.device fault).Tells ⟨-32603, "Internal error", [("msg", .text fault.message)]⟩ := by
  obtain ⟨_, detail⟩ := fault
  cases hk
  exact .internal rfl rfl rfl

theorem tells_system {kind : SystemKind} (hk : fault.kind = .system kind) :
    (Fault.device fault).Tells ⟨-32000, "Server error", [("msg", .text fault.message)]⟩ := by
  obtain ⟨_, detail⟩ := fault
  cases hk
  exact .transaction rfl (.inr rfl)

/-- A fault of the protocol stack comes out of a use as it is if it keeps the link from being
opened, and only then: in place of an answer it becomes a fault of the link. So a caller is told of
an internal error in the first case. In the second, and when the connection is refused or the system
keeps the link from being opened, it is an error of the transaction. -/
theorem respond_unopened (log : Log) (s : Settings) (a : App) (records : List LogRecord)
    (hs : (start log s).2 = .ok (a, records)) :
    (∀ {ρ : Type} (w : Wire) (plan : Plan ρ) (framer : Framer) (request : ρ) (l : Link)
        (fault : DeviceFault) (kind : StackKind), fault.kind = .stack kind →
      let v := (Link.execute w plan framer request l).value
      (v = .error (.device fault) ↔ Link.FailsToOpen plan framer l fault) ∧
      (Link.Reaches l plan framer → plan.reply request = .error fault →
        ∃ f, v = .error (.link f) ∧ ((Fault.link f).isModbus ∨ (Fault.link f).isSystem))) ∧
    ∀ (plan : Plan Request) (r : Http.Request) (c : Call) (d : Service.Dispatch) (l : Link),
      r.Carries c → Service.dispatch c.method (c.params.getD []) = .ok d →
      let framer := s.mode.framer d.request.unit
      let response := (a.respond plan r l).value
      (∀ fault kind, fault.kind = .stack kind → Link.FailsToOpen plan framer l fault →
        response = refusal c ⟨-32603, "Internal error", [("msg", .text fault.message)]⟩) ∧
      (∀ fault kind, fault.kind = .system kind → Link.FailsToOpen plan framer l fault →
        response = refusal c ⟨-32000, "Server error", [("msg", .text fault.message)]⟩) ∧
      (Link.Attempts l plan framer → plan.connect = .ok false →
        response = refusal c ⟨-32000, "Server error",
          [("msg", .text ("unable to connect to " ++ s.wire.description))]⟩) ∧
      (∀ fault kind, fault.kind = .stack kind → Link.Reaches l plan framer →
        plan.reply d.request = .error fault →
        ∃ f, response = refusal c ⟨-32000, "Server error",
          [("msg", .text (LinkFault.message f))]⟩) := by
  obtain rfl := eq_ofSettings hs
  constructor
  · intro ρ w plan framer request l fault kind hk v
    refine ⟨Link.execute_eq_stack_iff hk, fun hr ha => ?_⟩
    obtain ⟨f, he, ht⟩ := Link.Ends.of_stack (w := w) hr ha hk
    exact ⟨f, Link.value_execute_eq_iff.mpr he, ht⟩
  · intro plan r c d l hc hd framer response
    refine ⟨fun fault kind hk hf => ?_, fun fault kind hk hf => ?_, fun ht hp => ?_,
      fun fault kind hk hr ha => ?_⟩
    · exact value_respond_of_fault hc hd (.unopened hf) (tells_stack hk)
    · exact value_respond_of_fault hc hd (.unopened hf) (tells_system hk)
    · exact value_respond_of_fault hc hd (.refused ht hp) (.transaction rfl (.inr rfl))
    · obtain ⟨f, he, ht⟩ := Link.Ends.of_stack (w := s.wire) hr ha hk
      exact ⟨f, value_respond_of_fault hc hd he (.transaction rfl ht)⟩

/-- A port that cannot be opened when the client is created. -/
theorem respond_unopened_port :
    let busy : DeviceFault := ⟨.stack .connection, "port is busy"⟩
    let plan : Plan Request := ⟨.error busy, .ok true, fun _ => .ok {}⟩
    let q : Request := ⟨0, 0, .readBits .coils 1⟩
    Link.FailsToOpen plan .socket {} busy ∧
      (Link.execute (Settings.wire {}) plan .socket q {}).value = .error (.device busy) ∧
      ((ofSettings {}).respond plan readCoil {}).value = refusal readCoilCall
        ⟨-32603, "Internal error", [("msg", .text "Modbus Error: [Connection] port is busy")]⟩ := by
  intro busy plan q
  have hf : Link.FailsToOpen plan .socket {} busy := .create (by simp [Link.Serves]) rfl
  have hs : (start {} {}).2 = .ok (ofSettings {}, [⟨.info, .app, greeting {}⟩]) := rfl
  have hd : Service.dispatch readCoilCall.method (readCoilCall.params.getD []) =
      .ok ⟨.readCoil, .readBits .coils 0 1, q⟩ := by rfl
  obtain ⟨hl, hg⟩ := respond_unopened {} {} _ _ hs
  refine ⟨hf, ?_, ?_⟩
  · exact (hl (Settings.wire {}) plan .socket q {} busy .connection rfl).1.mpr hf
  · exact (hg plan readCoil readCoilCall _ {} carries_readCoil hd).1 busy .connection rfl hf

/-- A connection that the protocol stack cannot open ends a use in a fault that is none of a link,
and the caller is told of an internal error. -/
theorem respond_failing_connection :
    let lost : DeviceFault := ⟨.stack .connection, "refused"⟩
    let plan : Plan Request := ⟨.ok (), .error lost, fun _ => .ok {}⟩
    let q : Request := ⟨0, 0, .readBits .coils 1⟩
    (Link.execute (Settings.wire {}) plan .socket q {}).value = .error (.device lost) ∧
      (Fault.device lost).isModbus = false ∧ (Fault.device lost).isSystem = false ∧
      ((ofSettings {}).respond plan readCoil {}).value = refusal readCoilCall
        ⟨-32603, "Internal error", [("msg", .text "Modbus Error: [Connection] refused")]⟩ := by
  intro lost plan q
  have ht : Link.Attempts {} plan .socket := ⟨fun _ => rfl, by simp [Link.Serves]⟩
  have hf : Link.FailsToOpen plan .socket {} lost := .connect ht rfl
  have hd : Service.dispatch readCoilCall.method (readCoilCall.params.getD []) =
      .ok ⟨.readCoil, .readBits .coils 0 1, q⟩ := by rfl
  refine ⟨(Link.execute_eq_stack_iff rfl).mpr hf, rfl, rfl, ?_⟩
  exact value_respond_of_fault carries_readCoil hd (.unopened hf) (tells_stack rfl)

end App

end ModbusRpc
