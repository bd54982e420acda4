import ModbusRpc.Proofs.Modbus.Payloads
import ModbusRpc.Proofs.Rpc.Gate

/-! # How calls end

A call ends in one of a few ways, and what the link does decides which. It gives a value, it is
refused for its name, its parameters or the limits of its function, its response breaks a rule or is
an exception, or the link fails. A call never ends in a fault of packing or unpacking.
-/

namespace ModbusRpc

/-- The values that a method of this name may give. -/
inductive Value.FitsName : String → Value → Prop where
  | single {n : Int} : n = 0 ∨ n = 1 → FitsName "modbus-write-coil" (.single n)
  | list {name : String} {ns : List Int} : name ≠ "modbus-write-coil" → ns ≠ [] →
      (∀ n ∈ ns, IsWord n) → FitsName name (.list ns)

theorem Wants.isWord {ps : Params} {m : Method} {n : Int} (h : Wants ps m (.writeRegister n)) :
    IsWord n := by
  cases h with
  | writeRegister h => exact h.2

theorem Wants.eq_writeCoil {ps : Params} {c : Command} (h : Wants ps .writeCoil c) :
    ∃ on, c = .writeCoil on := by
  cases h with
  | @writeCoil on _ => exact ⟨on, rfl⟩

theorem Operation.eq_writeCoil_of_command {op : Operation} {on : Bool}
    (h : op.command = .ok (.writeCoil on)) :
    ∃ address, op = .writeCoil address (if on then coilOn else coilOff) := by
  cases op with
  | readBits table address quantity => cases (command_readBits_iff.mp h).2
  | readWords table address quantity => cases (command_readWords_iff.mp h).2
  | writeRegister address value => cases h
  | writeCoils address quantity payload => cases (command_writeCoils_iff.mp h).2.2
  | writeRegisters address quantity payload => cases (command_writeRegisters_iff.mp h).2.2
  | writeCoil address state =>
    obtain ⟨hs, h⟩ := ite_eq_ok_iff.mp h
    cases h
    exact ⟨address, by rcases hs with rfl | rfl <;> rfl⟩

namespace Service

variable {name : String} {ps : Params} {d : Dispatch} {r : Response} {fault : Fault}

theorem dispatch_eq_error (h : dispatch name ps = .error fault) :
    (∃ f, fault = .param f) ∨ fault = .unknownMethod name ∨ ∃ f, fault = .request f := by
  rcases bind_eq_error_iff.mp h with h | ⟨⟨m, o⟩, -, h⟩
  · unfold order at h
    split at h
    · cases h
      exact .inr (.inl rfl)
    · split at h
      · cases h
        exact .inl ⟨_, rfl⟩
      · cases h
  · rcases bind_eq_error_iff.mp h with h | ⟨_, _, h⟩
    · exact .inr (.inr (Operation.request_eq_error h))
    · cases h

theorem wants_of_dispatch (h : dispatch name ps = .ok d) :
    Wants ps d.method d.request.command ∧ d.operation.command = .ok d.request.command := by
  obtain ⟨-, unit, ho, hr⟩ := dispatch_eq_ok_iff.mp h
  exact ⟨((Method.requests_iff d.method).mp ⟨_, ho, hr⟩).command,
    (Operation.request_eq_ok_iff.mp hr).2.2⟩

theorem conclude_writeCoil {address : Int} {on : Bool} (hr : r.isException = false)
    (hm : d.method = .writeCoil)
    (ho : d.operation = .writeCoil address (if on then coilOn else coilOff)) :
    (∃ f, f ≠ .emptyAcknowledgement ∧ d.conclude r = .error (.response f)) ∨
      d.conclude r = .ok (.single (if on then 1 else 0)) := by
  have hs : IsWord (if on then coilOn else coilOff) := by cases on <;> decide
  have hr : ¬ r.isException = true := by simp [hr]
  unfold Dispatch.conclude
  rw [hm, ho, Operation.payload, if_neg hr]
  rcases writeEcho_cases r (some r.coilState) address hs with ⟨f, hf, h⟩ | h
  · exact .inl ⟨f, hf, by rw [h]; rfl⟩
  · right
    rw [h]
    change ((Coil.normalize (payloadValues (wordBytes _))).mapError Fault.response).map
      Value.single = _
    rw [Coil.normalize_wordBytes]
    rfl

/-- A response that is no exception gives a value that fits the method, or breaks a rule. -/
theorem conclude_cases (h : dispatch name ps = .ok d) (hr : r.isException = false)
    (hw : ∀ w ∈ r.registers, IsWord w) :
    (∃ f, f ≠ .emptyAcknowledgement ∧ d.conclude r = .error (.response f)) ∨
      ∃ v, v.FitsName name ∧ d.conclude r = .ok v := by
  obtain ⟨hn, -⟩ := dispatch_eq_ok_iff.mp h
  obtain ⟨hc, ho⟩ := wants_of_dispatch h
  by_cases hm : d.method = .writeCoil
  · obtain ⟨on, hc⟩ := (hm ▸ hc).eq_writeCoil
    obtain ⟨address, ho⟩ := Operation.eq_writeCoil_of_command (hc ▸ ho)
    refine (conclude_writeCoil hr hm ho).imp_right fun hv => ⟨_, ?_, hv⟩
    rw [← hn, hm]
    apply Value.FitsName.single
    cases on
    · exact .inl rfl
    · exact .inr rfl
  · have hk : ∀ n, d.request.command = .writeRegister n → IsWord n := fun n hq =>
      (hq ▸ hc).isWord
    cases Operation.answers_payload ho hk hr hw with
    | broken hf hp => exact .inl ⟨_, hf, by rw [Dispatch.conclude, hp]; rfl⟩
    | payload hb hp =>
      right
      refine ⟨_, .list ?_ (payloadValues_ne_nil hb) fun n hn => isWord_of_mem_payloadValues hn,
        Dispatch.conclude_of_payload hm hp⟩
      exact fun e => hm (Method.name_inj.mp (hn.trans e))

theorem conclude_of_exception (hr : r.isException = true) :
    d.conclude r = .error (.exception r.functionCode r.exceptionCode) := by
  rw [Dispatch.conclude, Operation.payload_of_exception hr]
  rfl

/-! ### Endings -/

inductive Ending where
  | value
  | badParams
  | unknownMethod
  | badRequest
  | badResponse
  | exception
  | brokenLink

def Ending.of : Option (Except Fault Response) → Except Fault Value → Ending
  | none, .error (.param _) => .badParams
  | none, .error (.request _) => .badRequest
  | none, _ => .unknownMethod
  | some (.error _), _ => .brokenLink
  | some (.ok r), outcome =>
    if r.isException then .exception else
      match outcome with
      | .ok _ => .value
      | .error _ => .badResponse

variable (answer : List (Framer × Request) → Except Fault Response) (mode : Mode) (name : String)
  (ps : Option Params)

/-- The one request of a call, and what the link answers to it. -/
def Hears (s : Framer × Request) (a : Except Fault Response) : Prop :=
  sent answer mode name ps = [s] ∧ answer [s] = a

def Ends : Ending → Prop
  | .value => ∃ s r v, Hears answer mode name ps s (.ok r) ∧ r.isException = false ∧
      outcome answer mode name ps = .ok v ∧ v.FitsName name
  | .badParams => sent answer mode name ps = [] ∧
      ∃ f, outcome answer mode name ps = .error (.param f)
  | .unknownMethod => sent answer mode name ps = [] ∧
      outcome answer mode name ps = .error (.unknownMethod name)
  | .badRequest => sent answer mode name ps = [] ∧
      ∃ f, outcome answer mode name ps = .error (.request f)
  | .badResponse => ∃ s r f, Hears answer mode name ps s (.ok r) ∧ r.isException = false ∧
      f ≠ .emptyAcknowledgement ∧ outcome answer mode name ps = .error (.response f)
  | .exception => ∃ s r, Hears answer mode name ps s (.ok r) ∧ r.isException = true ∧
      outcome answer mode name ps = .error (.exception r.functionCode r.exceptionCode)
  | .brokenLink => ∃ s fault, Hears answer mode name ps s (.error fault) ∧
      outcome answer mode name ps = .error fault

variable {answer mode name ps}

theorem Ends.eq_of {e : Ending} (h : Ends answer mode name ps e) :
    e = .of ((sent answer mode name ps).head?.map fun s => answer [s])
      (outcome answer mode name ps) := by
  cases e with
  | value =>
    obtain ⟨s, r, v, ⟨hs, ha⟩, hr, ho, -⟩ := h
    simp [hs, ha, hr, ho, Ending.of]
  | badParams | badRequest =>
    obtain ⟨hs, f, ho⟩ := h
    simp [hs, ho, Ending.of]
  | unknownMethod =>
    obtain ⟨hs, ho⟩ := h
    simp [hs, ho, Ending.of]
  | badResponse =>
    obtain ⟨s, r, f, ⟨hs, ha⟩, hr, -, ho⟩ := h
    simp [hs, ha, hr, ho, Ending.of]
  | exception =>
    obtain ⟨s, r, ⟨hs, ha⟩, hr, ho⟩ := h
    simp [hs, ha, hr, Ending.of]
  | brokenLink =>
    obtain ⟨s, fault, ⟨hs, ha⟩, ho⟩ := h
    simp [hs, ha, Ending.of]

theorem hears_of_dispatch (answer : List (Framer × Request) → Except Fault Response) (mode : Mode)
    (h : dispatch name (ps.getD []) = .ok d) :
    Hears answer mode name ps (mode.framer d.request.unit, d.request)
      (answer [(mode.framer d.request.unit, d.request)]) :=
  ⟨sent_of_ok answer mode h, rfl⟩

theorem Hears.outcome {s : Framer × Request} {a : Except Fault Response}
    (h : Hears answer mode name ps s a) :
    ∃ d : Dispatch, outcome answer mode name ps = a >>= d.conclude := by
  cases hd : dispatch name (ps.getD []) with
  | error fault => cases (sent_of_error answer mode hd).symm.trans h.1
  | ok d =>
    have hs := (sent_of_ok answer mode hd).symm.trans h.1
    exact ⟨d, by rw [outcome_of_ok answer mode hd, hs, h.2]⟩

theorem exists_ends
    (hw : ∀ s r, Hears answer mode name ps s (.ok r) → r.isException = false →
      ∀ w ∈ r.registers, IsWord w) : ∃ e, Ends answer mode name ps e := by
  cases hd : dispatch name (ps.getD []) with
  | error fault =>
    have hs := sent_of_error answer mode hd
    have ho := outcome_of_error answer mode hd
    rcases dispatch_eq_error hd with ⟨f, rfl⟩ | rfl | ⟨f, rfl⟩
    · exact ⟨.badParams, hs, f, ho⟩
    · exact ⟨.unknownMethod, hs, ho⟩
    · exact ⟨.badRequest, hs, f, ho⟩
  | ok d =>
    have hh := hears_of_dispatch answer mode hd
    have ho := outcome_of_ok answer mode hd
    generalize ha : answer [(mode.framer d.request.unit, d.request)] = a at hh ho
    cases a with
    | error fault => exact ⟨.brokenLink, _, fault, hh, ho⟩
    | ok r =>
      change outcome answer mode name ps = d.conclude r at ho
      cases hr : r.isException with
      | true => exact ⟨.exception, _, r, hh, hr, ho.trans (conclude_of_exception hr)⟩
      | false =>
        rcases conclude_cases hd hr (hw _ r hh hr) with ⟨f, hf, hc⟩ | ⟨v, hv, hc⟩
        · exact ⟨.badResponse, _, r, f, hh, hr, hf, ho.trans hc⟩
        · exact ⟨.value, _, r, v, hh, hr, ho.trans hc, hv⟩

/-- Whatever the link does, a call ends in one way only: with a value that fits its method; refused
with nothing sent; for what the response says; or in the fault of the link itself. If registers of
responses are words, no other fault is left. An exception is reported as it is. -/
theorem call_ends (answer : List (Framer × Request) → Except Fault Response) (mode : Mode)
    (name : String) (ps : Option Params) :
    (∀ s r, Hears answer mode name ps s (.ok r) → 128 < r.functionCode →
      outcome answer mode name ps = .error (.exception r.functionCode r.exceptionCode)) ∧
    ((∀ s r, Hears answer mode name ps s (.ok r) → r.functionCode ≤ 128 →
        ∀ w ∈ r.registers, IsWord w) →
      ∃! e, Ends answer mode name ps e) := by
  constructor
  · intro s r hh hr
    obtain ⟨d, ho⟩ := hh.outcome
    exact ho.trans (conclude_of_exception (Response.isException_iff.mpr hr))
  · intro hw
    obtain ⟨e, he⟩ := exists_ends fun s r hh hr =>
      hw s r hh (by simpa [Response.isException] using hr)
    exact ⟨e, he, fun e' he' => he'.eq_of.trans he.eq_of.symm⟩

/-- A unit that has the greatest word in a register, and one that reports an exception along with
numbers that are no words. -/
theorem call_ends_greatest_word :
    let ps : Params := [("address", .int 9), ("quantity", .int 1)]
    let s : Framer × Request := (.socket, ⟨0, 9, .readWords .holdingRegisters 1⟩)
    let r : Response := { registers := [0xFFFF] }
    let e : Response := { registers := [-1, 0x10000], functionCode := 0x83, exceptionCode := 2 }
    (∀ s' r', Hears (fun _ => .ok r) .tcp "modbus-read-holding" (some ps) s' (.ok r') →
      r'.functionCode ≤ 128 → ∀ w ∈ r'.registers, IsWord w) ∧
    (∃! e, Ends (fun _ => .ok r) .tcp "modbus-read-holding" (some ps) e) ∧
    Hears (fun _ => .ok e) .tcp "modbus-read-holding" (some ps) s (.ok e) ∧
    outcome (fun _ => .ok e) .tcp "modbus-read-holding" (some ps) = .error (.exception 0x83 2) := by
  intro ps s r e
  have hw : ∀ s' r', Hears (fun _ => .ok r) .tcp "modbus-read-holding" (some ps) s' (.ok r') →
      r'.functionCode ≤ 128 → ∀ w ∈ r'.registers, IsWord w := by
    rintro s' r' ⟨-, hr⟩ -
    cases hr
    decide
  have hh : Hears (fun _ => .ok e) .tcp "modbus-read-holding" (some ps) s (.ok e) :=
    ⟨by decide, rfl⟩
  exact ⟨hw, (call_ends _ .tcp _ (some ps)).2 hw, hh,
    (call_ends _ .tcp _ (some ps)).1 s e hh (by decide)⟩

end Service

end ModbusRpc
