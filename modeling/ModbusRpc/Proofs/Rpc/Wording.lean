import ModbusRpc.Proofs.Json.Writable
import ModbusRpc.Proofs.Rpc.Endings
import ModbusRpc.Rpc.Reply

/-! # What callers are told

The kind of a fault decides the code that a caller is told, whatever depth the fault comes from, and
its wording goes along. An answer repeats two texts that are not the gateway's own: the identity of
the call and the wording of a fault of the link. Only these may have half of a surrogate pair alone.
-/

namespace ModbusRpc

namespace Fault

/-- What a caller is told of a fault: the code, the message and the data of its kind. -/
inductive Tells : Fault → ErrorObject → Prop where
  | params (f : ParamFault) : Tells (.param f) ⟨-32602, "Invalid params", membersOf f.data⟩
  | method (name : String) : Tells (.unknownMethod name)
      ⟨-32601, "Method not found", [("method", .ofString name)]⟩
  | exception (functionCode exceptionCode : Int) : Tells (.exception functionCode exceptionCode)
      ⟨-32000, "Server error", [("msg", .text (exception functionCode exceptionCode).message),
        ("exception_code", .int exceptionCode)]⟩
  | transaction {f : Fault} : f.exceptionCode? = none → f.isModbus = true ∨ f.isSystem = true →
      Tells f ⟨-32000, "Server error", [("msg", .text f.message)]⟩
  | internal {f : Fault} : f.rpcError? = none → f.isModbus = false → f.isSystem = false →
      Tells f ⟨-32603, "Internal error", [("msg", .text f.message)]⟩

theorem Tells.eq {f : Fault} {e : ErrorObject} (h : f.Tells e) : f.toObject = e := by
  cases h with
  | params g => rfl
  | method name => rfl
  | exception functionCode exceptionCode => rfl
  | transaction hx hk =>
    have ht : f.isTransaction = true := by simpa [isTransaction] using hk
    have hr : f.rpcError? = none := by
      cases f with
      | param _ | unknownMethod _ => simp [isModbus, isSystem] at hk
      | _ => rfl
    simp [toObject, hr, ht, transactionData, hx, membersOf]
  | internal hr hm hs => simp [toObject, hr, isTransaction, hm, hs, membersOf]

theorem tells_toObject (f : Fault) : f.Tells f.toObject := by
  suffices h : ∃ e, f.Tells e by
    obtain ⟨e, he⟩ := h
    exact he.eq ▸ he
  by_cases hk : f.isModbus = true ∨ f.isSystem = true
  · cases f with
    | exception functionCode exceptionCode => exact ⟨_, .exception functionCode exceptionCode⟩
    | _ => exact ⟨_, .transaction rfl hk⟩
  · obtain ⟨hm, hs⟩ : f.isModbus = false ∧ f.isSystem = false := by simpa using hk
    cases f with
    | param fault => exact ⟨_, .params fault⟩
    | unknownMethod name => exact ⟨_, .method name⟩
    | _ => exact ⟨_, .internal rfl hm hs⟩

end Fault

/-! ### Parameters -/

def ParamFault.IsWhole (f : ParamFault) : Prop := f.message.chars?.isNone = false

section Checks

variable (ps : Params) (key : String) (default? : Option Int)

theorem isWhole_integer : FaultsAre ParamFault.IsWhole (ps.integer key default?) := by
  unfold Params.integer
  split
  · split
    · exact .ok
    · exact .error (by simp [ParamFault.IsWhole, ParamFault.message])
  · exact .ite .ok (.error (by simp [ParamFault.IsWhole, ParamFault.message]))
  · exact .error (by simp [ParamFault.IsWhole, ParamFault.message])
  · exact .error (by simp [ParamFault.IsWhole, ParamFault.message])

theorem isWhole_unit : FaultsAre ParamFault.IsWhole ps.unit :=
  (isWhole_integer ps "slave_id" _).bind fun _ =>
    .ite .ok (.error (by simp [ParamFault.IsWhole, ParamFault.message]))

theorem isWhole_word : FaultsAre ParamFault.IsWhole (ps.word key default?) :=
  (isWhole_integer ps key default?).bind fun _ =>
    .ite .ok (.error (by simp [ParamFault.IsWhole, ParamFault.message]))

theorem isWhole_addressAnd : FaultsAre ParamFault.IsWhole (Params.addressAnd key ps) :=
  (isWhole_word ps "address" none).bind fun _ => (isWhole_word ps key none).bind fun _ => .ok

theorem isWhole_bytes : FaultsAre ParamFault.IsWhole (ps.bytes key) := by
  unfold Params.bytes
  split
  · exact .mapError fun _ _ => by simp [ParamFault.IsWhole, ParamFault.message]
  · exact .error (by simp [ParamFault.IsWhole, ParamFault.message])

theorem isWhole_encode (value : Int) : FaultsAre ParamFault.IsWhole (Coil.encode value) :=
  .ite .ok (.ite .ok (.error (by simp [ParamFault.IsWhole, ParamFault.message])))

theorem isWhole_order (m : Method) : FaultsAre ParamFault.IsWhole (m.order ps) := by
  have hr : ∀ operation, FaultsAre ParamFault.IsWhole (Method.readOrder operation ps) :=
    fun operation => (isWhole_addressAnd ps "quantity").bind fun _ =>
      (isWhole_unit ps).bind fun _ => .ok
  have hw : ∀ operation, FaultsAre ParamFault.IsWhole (Method.writeOrder operation ps) :=
    fun operation => (isWhole_addressAnd ps "quantity").bind fun _ =>
      (isWhole_bytes ps "value").bind fun _ => (isWhole_unit ps).bind fun _ => .ok
  cases m with
  | readCoil | readDiscrete | readInput | readHolding => exact hr _
  | writeMultipleCoils | writeMultipleRegisters => exact hw _
  | writeRegister =>
    exact (isWhole_addressAnd ps "value").bind fun _ => (isWhole_unit ps).bind fun _ => .ok
  | writeCoil =>
    exact (isWhole_addressAnd ps "value").bind fun _ => (isWhole_encode _).bind fun _ =>
      (isWhole_unit ps).bind fun _ => .ok

end Checks

/-! ### Requests and responses -/

/-- A fault that is told of in whole characters. -/
structure Fault.IsWhole (f : Fault) : Prop where
  message : f.message.chars?.isNone = false
  params : ∀ g, f = .param g → g.IsWhole

theorem Fault.IsWhole.of_message {f : Fault} (h : f.message.chars?.isNone = false)
    (hn : ∀ g, f ≠ .param g) : f.IsWhole :=
  ⟨h, fun g hg => absurd hg (hn g)⟩

namespace Response

inductive Blamed (r : Response) : Fault → Prop where
  | exception : r.isException = true → Blamed r (.exception r.functionCode r.exceptionCode)
  | rule (f : ResponseFault) : Blamed r (.response f)
  | word (f : WordFault) : Blamed r (.notAWord f)

variable {r : Response}

theorem Blamed.isWhole {f : Fault} (h : r.Blamed f) : f.IsWhole := by
  cases h with
  | exception _ | rule _ | word _ => exact .of_message (by simp [Fault.message]) (by simp)

theorem blamed_packedWords {count : Int} {ws : List Int} :
    FaultsAre r.Blamed (packedWords count ws) :=
  .mapError fun f _ => .word f

theorem blamed_writeEcho {echoed : Option Int} {address value : Int} :
    FaultsAre r.Blamed (writeEcho r echoed address value) := by
  apply FaultsAre.ite
  · exact .error (.rule _)
  · apply FaultsAre.ite
    · exact .error (.rule _)
    · exact blamed_packedWords

theorem blamed_payload (op : Operation) : FaultsAre r.Blamed (op.payload r) := by
  unfold Operation.payload
  split
  next hr => exact .error (.exception hr)
  next =>
    cases op with
    | readBits _ _ _ => exact .ite (.error (.rule _)) .ok
    | readWords _ _ _ => exact .ite (.error (.rule _)) blamed_packedWords
    | writeCoil _ _ | writeRegister _ _ | writeCoils _ _ _ | writeRegisters _ _ _ =>
      exact blamed_writeEcho

theorem blamed_value (m : Method) (payload : List UInt8) :
    FaultsAre r.Blamed (m.value payload) := by
  cases m with
  | writeCoil => exact .map (.mapError fun f _ => .rule f)
  | _ => exact .ok

theorem blamed_conclude (d : Service.Dispatch) : FaultsAre r.Blamed (d.conclude r) :=
  (blamed_payload d.operation).bind fun payload => blamed_value d.method payload

end Response

theorem Service.isWhole_dispatch {name : String} {ps : Params} :
    FaultsAre Fault.IsWhole (dispatch name ps) := by
  apply FaultsAre.bind
  · unfold order
    split
    · exact .error (.of_message (by simp [Fault.message]) (by simp))
    · split
      next ho =>
        refine .error ⟨by simp [Fault.message], ?_⟩
        rintro _ ⟨⟩
        exact isWhole_order _ _ _ ho
      · exact .ok
  · intro o
    apply FaultsAre.bind
    · intro f hf
      obtain ⟨g, rfl⟩ := Operation.request_eq_error hf
      exact .of_message (by simp [Fault.message]) (by simp)
    · exact fun _ => .ok

/-! ### Answers -/

theorem Value.hasLoneSurrogate_toJson (v : Value) : v.toJson.hasLoneSurrogate = false := by
  cases v with
  | single n => simp [toJson]
  | list ns =>
    rw [toJson, Json.hasLoneSurrogate]
    induction ns with
    | nil => simp [Json.itemsHaveLoneSurrogate]
    | cons n ns ih => simp [Json.itemsHaveLoneSurrogate, ih]

theorem ErrorObject.hasLoneSurrogate_toJson (e : ErrorObject) :
    e.toJson.hasLoneSurrogate = Json.membersHaveLoneSurrogate e.data := by
  simp [toJson]

theorem Fault.hasLoneSurrogate_toObject {f : Fault} (h : ∀ g, f = .param g → g.IsWhole) :
    f.toObject.toJson.hasLoneSurrogate = f.message.chars?.isNone := by
  rw [ErrorObject.hasLoneSurrogate_toJson]
  generalize he : f.toObject = e
  cases he ▸ f.tells_toObject with
  | params g =>
    have hg : g.message.chars?.isNone = false := h g rfl
    cases g <;> simp_all [membersOf, ParamFault.data, message]
  | method name => simp [message]
  | exception functionCode exceptionCode => simp [message]
  | transaction _ _ => simp
  | internal _ _ _ => simp

/-- Neither the identity of a call nor the wording of the fault in which it ends has half of a
surrogate pair alone. -/
structure Call.IsWhole (c : Call) (outcome : Except Fault Value) : Prop where
  id : c.id.toJson.hasLoneSurrogate = false
  fault : ∀ f, outcome = .error f → f.message.chars?.isNone = false

theorem Call.hasLoneSurrogate_reply {c : Call} {outcome : Except Fault Value}
    (h : ∀ g, outcome = .error (.param g) → g.IsWhole) :
    (c.reply outcome).toJson.hasLoneSurrogate = false ↔ c.IsWhole outcome := by
  cases outcome with
  | ok v =>
    have hv : (c.reply (.ok v)).toJson.hasLoneSurrogate = c.id.toJson.hasLoneSurrogate := by
      simp [reply, Reply.toJson, v.hasLoneSurrogate_toJson]
    rw [hv]
    exact ⟨fun hi => ⟨hi, by simp⟩, IsWhole.id⟩
  | error f =>
    have hf : f.toObject.toJson.hasLoneSurrogate = f.message.chars?.isNone :=
      Fault.hasLoneSurrogate_toObject fun g hg => h g (hg ▸ rfl)
    have he : (c.reply (.error f)).toJson.hasLoneSurrogate =
        (c.id.toJson.hasLoneSurrogate || f.message.chars?.isNone) := by
      simp [reply, Reply.toJson, hf]
    rw [he, Bool.or_eq_false_iff]
    constructor
    · rintro ⟨hi, hm⟩
      refine ⟨hi, ?_⟩
      rintro _ ⟨⟩
      exact hm
    · exact fun hw => ⟨hw.id, hw.fault f rfl⟩

end ModbusRpc
