import Mathlib
import ModbusRpc.Gateway.App
import ModbusRpc.Proofs.Link.Causes
import ModbusRpc.Proofs.Rpc.Wording

/-! # Answers to calls

A call is answered with its value or with what its fault tells. Whatever the device does, the answer
is a success of HTTP, unless it would repeat a text that cannot be written.
-/

namespace ModbusRpc

def DeviceFault.IsWhole (f : DeviceFault) : Prop := f.detail.chars?.isNone = false

theorem DeviceFault.IsWhole.message {f : DeviceFault} (h : f.IsWhole) :
    f.message.chars?.isNone = false := by
  have hd : f.detail.chars?.isNone = false := h
  unfold DeviceFault.message
  split <;> simp [hd]

namespace Link

variable {ρ : Type} {w : Wire} {plan : Plan ρ} {framer : Framer} {request : ρ} {l : Link}
  {fault : DeviceFault}

/-- The texts that a fault of a link may repeat are in whole characters. -/
structure Whole (w : Wire) (plan : Plan ρ) : Prop where
  wire : w.description.chars?.isNone = false
  create : FaultsAre DeviceFault.IsWhole plan.create
  connect : FaultsAre DeviceFault.IsWhole plan.connect
  reply : ∀ q, FaultsAre DeviceFault.IsWhole (plan.reply q)

theorem isWhole_failure (hw : w.description.chars?.isNone = false) (h : fault.IsWhole) :
    (failure w fault).IsWhole := by
  have hm : fault.message.chars?.isNone = false := h.message
  unfold failure
  split
  · exact .of_message (by simp [Fault.message, LinkFault.message, hw]) (by simp)
  · exact .of_message hm (by simp)
  · exact .of_message hm (by simp)
  · exact .of_message hm (by simp)

theorem isWhole_execute (hw : Whole w plan) :
    FaultsAre Fault.IsWhole (execute w plan framer request l).value := by
  apply faultsAre_execute
  · rintro fault (⟨-, hp⟩ | ⟨-, hp⟩)
    · exact .of_message (hw.create _ hp).message (by simp)
    · exact .of_message (hw.connect _ hp).message (by simp)
  · exact fun _ _ => .of_message (by simp [Fault.message, LinkFault.message, hw.wire]) (by simp)
  · exact fun fault _ ha => isWhole_failure hw.wire (hw.reply _ _ ha)

theorem execute_ne_param (g : ParamFault) :
    (execute w plan framer request l).value ≠ .error (.param g) := by
  refine fun h => faultsAre_execute (P := (· ≠ .param g)) ?_ ?_ ?_ _ h rfl
  · simp
  · simp
  · intro fault _ _
    unfold failure
    split <;> simp

theorem reply_of_execute_ok {r : Response}
    (h : (execute w plan framer request l).value = .ok r) : plan.reply request = .ok r := by
  have he := value_execute_eq_iff.mp h
  generalize hv : Except.ok r = v at he
  cases he with
  | unopened _ | refused _ _ => cases hv
  | answered _ => exact mapError_eq_ok_iff.mp hv.symm

end Link

/-! ### Faults of calls -/

section Calls

variable {w : Wire} {plan : Plan Request} {mode : Mode} {name : String} {ps : Option Params}
  {l : Link}

theorem faultsAre_call {P : Fault → Prop} (hd : FaultsAre P (Service.dispatch name (ps.getD [])))
    (he : ∀ framer request, FaultsAre P (Link.execute w plan framer request l).value)
    (hc : ∀ (d : Service.Dispatch) r, plan.reply d.request = .ok r → FaultsAre P (d.conclude r)) :
    FaultsAre P (Service.call (Link.execute w plan) mode name ps l).value := by
  cases h : Service.dispatch name (ps.getD []) with
  | error fault =>
    rw [Service.call_of_error _ h]
    exact .error (hd _ h)
  | ok d =>
    rw [Service.call_of_ok _ h, Activity.map_apply]
    change FaultsAre P ((Link.execute w plan (mode.framer d.request.unit) d.request l).value >>= _)
    have he := he (mode.framer d.request.unit) d.request
    cases hv : (Link.execute w plan (mode.framer d.request.unit) d.request l).value with
    | error fault => exact .error (he _ hv)
    | ok r => exact hc d r (Link.reply_of_execute_ok hv)

theorem isWhole_call (hw : Link.Whole w plan) :
    FaultsAre Fault.IsWhole (Service.call (Link.execute w plan) mode name ps l).value :=
  faultsAre_call Service.isWhole_dispatch (fun _ _ => Link.isWhole_execute hw)
    fun d _ _ f hf => (Response.blamed_conclude d f hf).isWhole

theorem isWhole_of_call_eq_param {g : ParamFault}
    (h : (Service.call (Link.execute w plan) mode name ps l).value = .error (.param g)) :
    g.IsWhole := by
  refine faultsAre_call (P := fun f => f = .param g → g.IsWhole) ?_ ?_ ?_ _ h rfl
  · exact fun f hf he => (Service.isWhole_dispatch f hf).params g he
  · exact fun _ _ f hf he => absurd (he ▸ hf) (Link.execute_ne_param g)
  · exact fun d _ _ f hf he => (Response.blamed_conclude d f hf).isWhole.params g he

theorem exception_of_call {functionCode exceptionCode : Int}
    (h : (Service.call (Link.execute w plan) mode name ps l).value =
      .error (.exception functionCode exceptionCode)) :
    ∃ q r, plan.reply q = .ok r ∧ r.isException = true ∧ r.functionCode = functionCode ∧
      r.exceptionCode = exceptionCode := by
  refine faultsAre_call (P := fun f => f = .exception functionCode exceptionCode → _)
    ?_ ?_ ?_ _ h rfl
  · rintro _ hf rfl
    rcases Service.dispatch_eq_error hf with ⟨_, he⟩ | he | ⟨_, he⟩ <;> cases he
  · intro framer request
    apply Link.faultsAre_execute
    · simp
    · simp
    · intro fault _ _ he
      unfold Link.failure at he
      split at he <;> cases he
  · rintro d r hr _ hf rfl
    cases Response.blamed_conclude d _ hf with
    | exception hx => exact ⟨_, r, hr, hx, rfl, rfl⟩

end Calls

/-! ### Answers of the gateway -/

/-- A request to the resource of calls, with a call in its body. -/
structure Http.Request.Carries (r : Http.Request) (c : Call) : Prop where
  route : route r = .ok .rpc
  body : ∃ body, readBody r = .ok body ∧ callOf body = .ok c

def Http.Request.post (body : String) : Http.Request :=
  { method := "POST", path := "/rpc", body := body.toUTF8.toList }

def readCoil : Http.Request := .post
  "\x7b\"id\":7,\"method\":\"modbus-read-coil\",\"params\":\x7b\"address\":0,\"quantity\":1\x7d\x7d"

def readCoilCall : Call :=
  ⟨.number 7, "modbus-read-coil", some [("address", .int 0), ("quantity", .int 1)]⟩

set_option maxRecDepth 2000 in
theorem carries_readCoil : readCoil.Carries readCoilCall :=
  ⟨rfl, .value (.object [("id", .int 7), ("method", .text "modbus-read-coil"),
    ("params", .object [("address", .int 0), ("quantity", .int 1)])]), by cbv, by cbv⟩

/-- What an answer says of how a call has ended: its value, or what its fault tells. -/
inductive Told : Except Fault Value → String × Json → Prop where
  | value (v : Value) : Told (.ok v) ("result", v.toJson)
  | fault {f : Fault} {e : ErrorObject} : f.Tells e → Told (.error f) ("error", e.toJson)

namespace App

variable {log : Log} {s : Settings} {a : App} {records : List LogRecord} {plan : Plan Request}
  {r : Http.Request} {c : Call} {l : Link}

theorem eq_ofSettings (h : (start log s).2 = .ok (a, records)) : a = ofSettings s := by
  unfold start at h
  split at h
  · cases h
  · cases h
    rfl

theorem value_answer {service : ServiceConfig} :
    (answer service plan c l).value = c.reply
      (Service.call (Link.execute service.wire plan) service.mode c.method c.params l).value := by
  rw [answer, Activity.bind_apply]
  cases (Service.call (Link.execute service.wire plan) service.mode c.method c.params l).value with
  | ok v => rfl
  | error fault => rfl

theorem value_respond (h : r.Carries c) : ((ofSettings s).respond plan r l).value =
    Http.answered (c.reply
      (Service.call (Link.execute s.wire plan) s.mode c.method c.params l).value).toJson := by
  obtain ⟨hr, body, hb, hc⟩ := h
  have he : (ofSettings s).respond plan r = (do
      let reply ← answer ⟨s.mode, s.wire⟩ plan c
      pure (Http.answered reply.toJson)) := by
    simp [respond, respondRpc, hr, hb, hc, getService, require, ofSettings]
  rw [he, Activity.bind_apply, value_answer]
  rfl

theorem value_respond_of_isWhole (h : r.Carries c)
    (hw : c.IsWhole
      (Service.call (Link.execute s.wire plan) s.mode c.method c.params l).value) :
    ((ofSettings s).respond plan r l).value = Http.ok (c.reply
      (Service.call (Link.execute s.wire plan) s.mode c.method c.params l).value).toJson := by
  rw [value_respond h, Http.answered,
    (Call.hasLoneSurrogate_reply fun _ => isWhole_of_call_eq_param).mpr hw]
  rfl

theorem value_respond_of_not_isWhole (h : r.Carries c)
    (hw : ¬ c.IsWhole
      (Service.call (Link.execute s.wire plan) s.mode c.method c.params l).value) :
    ((ofSettings s).respond plan r l).value = Http.crashed .unwritableReply := by
  have hn := mt (Call.hasLoneSurrogate_reply fun _ => isWhole_of_call_eq_param).mp hw
  rw [value_respond h, Http.answered, if_pos (by simpa using hn)]

/-- A gateway that has been started answers a call with its value if it has one, and otherwise with
what its fault tells, to the identity of the call. It fails to answer exactly if it would have to
repeat half of a surrogate pair: that of the identity, or of a fault, which then has it from the
description of the link or from behind it. -/
theorem respond_call (log : Log) (s : Settings) (a : App) (records : List LogRecord)
    (plan : Plan Request) (r : Http.Request) (c : Call) (l : Link)
    (hs : (start log s).2 = .ok (a, records)) (hc : r.Carries c) :
    let outcome := (Service.call (Link.execute s.wire plan) s.mode c.method c.params l).value
    let response := (a.respond plan r l).value
    (c.IsWhole outcome → response.status = 200 ∧ response.crash = none ∧
      ∃ told, Told outcome told ∧ response.content = .json (.ofFields
        [("jsonrpc", .ofString "2.0"), ("id", c.id.toJson), told])) ∧
    (¬ c.IsWhole outcome → response = Http.crashed .unwritableReply) ∧
    (c.id.toJson.hasLoneSurrogate = false → Link.Whole s.wire plan → c.IsWhole outcome) ∧
    ∀ functionCode exceptionCode, outcome = .error (.exception functionCode exceptionCode) →
      ∃ q x, plan.reply q = .ok x ∧ x.isException = true ∧ x.functionCode = functionCode ∧
        x.exceptionCode = exceptionCode := by
  intro outcome response
  obtain rfl := eq_ofSettings hs
  refine ⟨fun hw => ?_, value_respond_of_not_isWhole hc, fun hi hl => ?_, fun _ _ =>
    exception_of_call⟩
  · have hr : response = Http.ok (c.reply outcome).toJson := value_respond_of_isWhole hc hw
    rw [hr]
    refine ⟨rfl, rfl, ?_⟩
    generalize outcome = x
    cases x with
    | ok v => exact ⟨_, .value v, rfl⟩
    | error f => exact ⟨_, .fault f.tells_toObject, rfl⟩
  · exact ⟨hi, fun f hf => (isWhole_call hl f hf).message⟩

theorem respond_call_busy :
    let busy : Plan Request :=
      ⟨.ok (), .ok true, fun _ => .ok { functionCode := 0x81, exceptionCode := 6 }⟩
    readCoil.Carries readCoilCall ∧ ∃ a records, (start {} {}).2 = .ok (a, records) ∧
      (a.respond busy readCoil {}).value.status = 200 ∧ ∃ e, (Fault.exception 0x81 6).Tells e ∧
        (a.respond busy readCoil {}).value.content = .json (.ofFields
          [("jsonrpc", .ofString "2.0"), ("id", .int 7), ("error", e.toJson)]) := by
  intro busy
  have ho : (Service.call (Link.execute (Settings.wire {}) busy) .tcp readCoilCall.method
      readCoilCall.params {}).value = .error (.exception 0x81 6) := by decide
  have hw : Link.Whole (Settings.wire {}) busy := ⟨by decide, .ok, .ok, fun _ => .ok⟩
  have hs : (start {} {}).2 = .ok (ofSettings {}, [⟨.info, .app, greeting {}⟩]) := rfl
  obtain ⟨ht, -, hi, -⟩ := respond_call {} {} _ _ busy readCoil readCoilCall {} hs carries_readCoil
  have hi := hi (by simp [readCoilCall, CallId.toJson]) hw
  obtain ⟨h200, -, told, hv, he⟩ := ht hi
  refine ⟨carries_readCoil, _, _, hs, h200, ?_⟩
  have hx : Told (.error (.exception 0x81 6)) told := by
    rw [← ho]
    exact hv
  cases hx with
  | fault hf => exact ⟨_, hf, he⟩

/-- An identity that is half of a surrogate pair costs a call its answer. -/
theorem respond_lone_surrogate :
    let r : Http.Request := .post "\x7b\"id\":\"\\ud800\",\"method\":\"x\"\x7d"
    let c : Call := ⟨.text [.surrogate 0], "x", none⟩
    r.Carries c ∧ ∃ a records, (start {} {}).2 = .ok (a, records) ∧
      ∀ plan l, (a.respond plan r l).value.status = 500 := by
  intro r c
  have hc : r.Carries c := ⟨rfl, .value (.object [("id", .text [.surrogate 0]),
    ("method", .text "x")]), by cbv, by cbv⟩
  refine ⟨hc, _, _, rfl, fun plan l => ?_⟩
  rw [value_respond_of_not_isWhole hc fun hw => Bool.noConfusion hw.id]
  rfl

end App

end ModbusRpc
