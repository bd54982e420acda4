import ModbusRpc.Proofs.Payload.Base64
import ModbusRpc.Proofs.Rpc.Gate

/-! # Calls about a range

Reads, and writes of several values, name a range by an address and a quantity, and each leads to
one operation on that range. Two calls in a row meet in the device alone.
-/

namespace ModbusRpc

/-- Parameters that name a range of a unit. -/
structure Params.HasRange (ps : Params) (greatest unit address quantity : Int) : Prop where
  unit : ps.HasUnit unit
  address : ps.HasWord "address" address
  quantity : ps.HasQuantity greatest quantity

structure Params.HasPayload (ps : Params) (greatest unit address quantity : Int)
    (payload : List UInt8) : Prop extends ps.HasRange greatest unit address quantity where
  value : ps.HasBytes "value" payload

def BitTable.readMethod : BitTable → Method
  | coils => .readCoil
  | discreteInputs => .readDiscrete

def WordTable.readMethod : WordTable → Method
  | inputRegisters => .readInput
  | holdingRegisters => .readHolding

theorem BitTable.readMethod_ne (table : BitTable) : table.readMethod ≠ .writeCoil := by
  cases table <;> decide

theorem WordTable.readMethod_ne (table : WordTable) : table.readMethod ≠ .writeCoil := by
  cases table <;> decide

variable {ps : Params} {greatest u a q : Int} {payload : List UInt8}

namespace Params

theorem exists_hasPayload (hu : 0 ≤ u ∧ u ≤ 255) (ha : IsWord a) (hq : 1 ≤ q ∧ q ≤ greatest)
    (payload : List UInt8) : ∃ ps : Params, ps.HasPayload greatest u a q payload := by
  refine ⟨[("slave_id", .int u), ("address", .int a), ("quantity", .int q),
    ("value", .text (Base64.encode payload))], ⟨.inl ⟨rfl, hu⟩, ⟨rfl, ha⟩, ⟨rfl, hq⟩⟩, ?_⟩
  exact ⟨_, rfl, Base64.means_iff.mpr (Base64.decode_encode payload)⟩

theorem HasRange.addressAndQuantity (h : ps.HasRange greatest u a q) (hg : greatest ≤ 65535) :
    ps.addressAndQuantity = .ok (a, q) :=
  addressAnd_eq_ok_iff.mpr ⟨h.address, ((hasQuantity_iff hg).mp h.quantity).1⟩

theorem HasRange.readOrder (h : ps.HasRange greatest u a q) (hg : greatest ≤ 65535)
    (op : (address quantity : Int) → Operation) : Method.readOrder op ps = .ok ⟨u, op a q⟩ := by
  unfold Method.readOrder
  rw [h.addressAndQuantity hg, unit_eq_ok_iff.mpr h.unit]
  rfl

theorem HasPayload.writeOrder (h : ps.HasPayload greatest u a q payload) (hg : greatest ≤ 65535)
    (op : (address quantity : Int) → List UInt8 → Operation) :
    Method.writeOrder op ps = .ok ⟨u, op a q payload⟩ := by
  unfold Method.writeOrder
  rw [h.addressAndQuantity hg, bytes_eq_ok_iff.mpr h.value, unit_eq_ok_iff.mpr h.unit]
  rfl

end Params

namespace Service

theorem dispatch_of_order {name : String} {k : Method} {o : Order} {c : Command}
    (hn : Method.Named name k) (ho : k.order ps = .ok o) (hc : o.operation.command = .ok c) :
    dispatch name ps = .ok ⟨k, o.operation, ⟨o.unit, o.operation.address, c⟩⟩ :=
  dispatch_eq_ok_iff.mpr
    ⟨Method.named_iff.mp hn, o.unit, ho, Operation.request_eq_ok_iff.mpr ⟨rfl, rfl, hc⟩⟩

theorem dispatch_readBits {name : String} (table : BitTable)
    (hn : Method.Named name table.readMethod) (h : ps.HasRange 2000 u a q) :
    dispatch name ps =
      .ok ⟨table.readMethod, .readBits table a q, ⟨u, a, .readBits table q⟩⟩ := by
  have ho : table.readMethod.order ps = .ok ⟨u, .readBits table a q⟩ := by
    cases table <;> exact h.readOrder (by decide) _
  exact dispatch_of_order hn ho (Operation.command_readBits_iff.mpr ⟨h.quantity.2, rfl⟩)

theorem dispatch_readCoil (h : ps.HasRange 2000 u a q) :
    dispatch "modbus-read-coil" ps =
      .ok ⟨.readCoil, .readBits .coils a q, ⟨u, a, .readBits .coils q⟩⟩ :=
  dispatch_readBits .coils .readCoil h

theorem dispatch_readWords {name : String} (table : WordTable)
    (hn : Method.Named name table.readMethod) (h : ps.HasRange 125 u a q) :
    dispatch name ps =
      .ok ⟨table.readMethod, .readWords table a q, ⟨u, a, .readWords table q⟩⟩ := by
  have ho : table.readMethod.order ps = .ok ⟨u, .readWords table a q⟩ := by
    cases table <;> exact h.readOrder (by decide) _
  exact dispatch_of_order hn ho (Operation.command_readWords_iff.mpr ⟨h.quantity.2, rfl⟩)

theorem dispatch_writeCoils (h : ps.HasPayload 1968 u a q payload)
    (hl : (payload.length : Int) = (q + 7) / 8) :
    dispatch "modbus-write-multiple-coils" ps = .ok ⟨.writeMultipleCoils, .writeCoils a q payload,
      ⟨u, a, .writeCoils ((List.range q.toNat).map (bitAt payload))⟩⟩ :=
  dispatch_of_order .writeMultipleCoils (h.writeOrder (by decide) _)
    (Operation.command_writeCoils_iff.mpr ⟨h.quantity.2, hl, rfl⟩)

theorem dispatch_writeRegisters (h : ps.HasPayload 123 u a q payload)
    (hl : (payload.length : Int) = 2 * q) :
    dispatch "modbus-write-multiple-registers" ps = .ok ⟨.writeMultipleRegisters,
      .writeRegisters a q payload, ⟨u, a, .writeRegisters (words payload)⟩⟩ :=
  dispatch_of_order .writeMultipleRegisters (h.writeOrder (by decide) _)
    (Operation.command_writeRegisters_iff.mpr ⟨h.quantity.2, hl, rfl⟩)

theorem conclude_readBits (table : BitTable) {d : Dispatch} {r : Response}
    (hm : d.method = table.readMethod) (hp : d.operation.payload r = .ok payload) :
    d.conclude r = .ok (.list (payloadValues payload)) :=
  Dispatch.conclude_of_payload (hm ▸ table.readMethod_ne) hp

/-! ### Calls over a device -/

theorem run_call_of_ok {σ : Type} {name : String} {qs : Option Params} {d : Dispatch} {mode : Mode}
    {s : σ} {r : Response} {device : Framer → Request → StateM σ (Except Fault Response)}
    (h : dispatch name (qs.getD []) = .ok d)
    (hr : ((device (mode.framer d.request.unit) d.request).run s).1 = .ok r) :
    ((call device mode name qs).run s).1 = d.conclude r := by
  rw [call_of_ok device h, StateT.run_map]
  exact congrArg (· >>= d.conclude) hr

/-! ### Two calls -/

section Later

variable {name name' : String} {qs qs' : Option Params} {d d' : Dispatch}

theorem call_seqRight_call {m : Type → Type} [Monad m] [LawfulMonad m] (mode mode' : Mode)
    (device : Framer → Request → m (Except Fault Response)) (between : m Unit)
    (h : dispatch name (qs.getD []) = .ok d) (h' : dispatch name' (qs'.getD []) = .ok d') :
    call device mode name qs *> between *> call device mode' name' qs' =
      (fun answer => answer >>= d'.conclude) <$>
        (device (mode.framer d.request.unit) d.request *> between *>
          device (mode'.framer d'.request.unit) d'.request) := by
  simp only [call_of_ok device h, call_of_ok device h', seqRight_eq_bind, map_bind, bind_map_left]

/-- After one call, and whatever else a device has gone through since, another call ends as the
answer to its own request says. -/
theorem run_call_seqRight_call {σ : Type} {mode mode' : Mode} {s : σ} {r : Response}
    {device : Framer → Request → StateM σ (Except Fault Response)} {between : StateM σ Unit}
    (h : dispatch name (qs.getD []) = .ok d) (h' : dispatch name' (qs'.getD []) = .ok d')
    (hr : ((device (mode.framer d.request.unit) d.request *> between *>
      device (mode'.framer d'.request.unit) d'.request).run s).1 = .ok r) :
    ((call device mode name qs *> between *> call device mode' name' qs').run s).1 =
      d'.conclude r := by
  rw [call_seqRight_call mode mode' device between h h', StateT.run_map]
  exact congrArg (· >>= d'.conclude) hr

end Later

end Service

end ModbusRpc
