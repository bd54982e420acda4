import ModbusRpc.Proofs.Modbus.Payloads
import ModbusRpc.Proofs.Payload.Values
import ModbusRpc.Proofs.Rpc.Ranges

/-! # Bits read

A read of bits takes the whole bytes in which the bits asked for end, with whatever the unit sent
for the places behind them. Each bit asked for is in one value of the call, in a place that the
quantity alone decides.
-/

namespace ModbusRpc

variable {bits : List Bool} {count : Nat} {payload : List UInt8} {q : Int} {r : Response}

/-- The payload that is taken from the bits of a response for a number of them. Bytes from the wire
are taken as they are. -/
structure TakenFrom (bits : List Bool) (count : Nat) (payload : List UInt8) : Prop where
  length : payload.length = bytesFor count
  bit (j : Nat) : bitAt payload j = (decide (j < 8 * bytesFor count) && bits.getD j false)
  wire (wire : List UInt8) : AreBits wire bits → bits.length = 8 * wire.length →
    payload = wire.take (bytesFor count)

/-- The values of a call that hold the first bits of a response. -/
structure Hold (values : List Int) (bits : List Bool) (count : Nat) : Prop where
  length : values.length =
    if bytesFor count % 2 = 1 then bytesFor count else bytesFor count / 2
  bit (i : Nat) : i < count → bitIn (bytesFor count) values i = bits.getD i false

theorem AreBits.getD_eq {wire : List UInt8} (h : AreBits wire bits)
    (hl : bits.length = 8 * wire.length) (j : Nat) : bits.getD j false = bitAt wire j := by
  by_cases hj : j < bits.length
  · rw [List.getD_eq_getElem _ _ hj, h j hj, bitAt]
  · rw [List.getD_eq_default _ _ (by omega), bitAt_of_le (by omega)]

theorem takenFrom_packBits_take (h : q ≤ r.bits.length) :
    TakenFrom r.bits q.toNat (packBits (r.bits.take (bytesFor q.toNat * 8))) := by
  have hn := length_packBits_take h
  refine ⟨hn, bitAt_packBits_take r.bits (bytesFor q.toNat), fun wire hw hl => ?_⟩
  apply ext_bitAt
  · rw [hn, List.length_take]
    unfold bytesFor
    omega
  · intro j
    rw [bitAt_packBits_take, bitAt_take, hw.getD_eq hl]

theorem TakenFrom.hold (h : TakenFrom bits count payload) :
    Hold (payloadValues payload) bits count := by
  constructor
  · rw [length_payloadValues, h.length]
  · intro i hi
    have hi' : i < 8 * bytesFor count := by
      unfold bytesFor
      omega
    rw [← h.length] at hi' ⊢
    rw [bitIn_payloadValues hi', h.bit, ← h.length, decide_eq_true hi', Bool.true_and]

theorem Operation.run_perform {σ : Type} {device : Request → StateM σ (Except Fault Response)}
    {s : σ} {op : Operation} {unit : Int} {request : Request} (h : op.request unit = .ok request)
    (hr : ((device request).run s).1 = .ok r) :
    ((op.perform device unit).run s).1 = op.payload r := by
  unfold perform
  simp only [h, StateT.run_bind]
  generalize (device request).run s = answered at hr
  obtain ⟨answer, t⟩ := answered
  cases hr
  rfl

namespace Service

/-- A read of bits fails if the response has fewer of them than were asked for. Otherwise the
payload has the bits of the response up to its last byte and unset ones behind them, and the call
ends with the values in the payload, where every bit asked for can be found. -/
theorem reads_bits {σ : Type} (device : Framer → Request → StateM σ (Except Fault Response))
    (s : σ) (mode : Mode) (table : BitTable) (ps : Option Params) {name : String} {u a q : Int}
    {r : Response} (hn : Method.Named name table.readMethod)
    (h : (ps.getD []).HasRange 2000 u a q)
    (hr : ((device (mode.framer u) ⟨u, a, .readBits table q⟩).run s).1 = .ok r)
    (he : r.functionCode ≤ 128) :
    let taken := (((Operation.readBits table a q).perform (device (mode.framer u)) u).run s).1
    let out := ((call device mode name ps).run s).1
    ((r.bits.length : Int) < q →
      taken = .error (.response (.fewBits r.bits.length q)) ∧
      out = .error (.response (.fewBits r.bits.length q))) ∧
    (q ≤ r.bits.length → ∃ payload values,
      taken = .ok payload ∧ TakenFrom r.bits q.toNat payload ∧
      out = .ok (.list values) ∧ values = payloadValues payload ∧
      Hold values r.bits q.toNat) := by
  intro taken out
  have ho : (Operation.readBits table a q).request u = .ok ⟨u, a, .readBits table q⟩ :=
    Operation.request_eq_ok_iff.mpr
      ⟨rfl, rfl, Operation.command_readBits_iff.mpr ⟨h.quantity.2, rfl⟩⟩
  have htaken : taken = packedBits r q :=
    (Operation.run_perform ho hr).trans (Operation.payload_readBits he)
  have hout := run_call_of_ok (dispatch_readBits table hn h) hr
  constructor
  · intro hl
    have hp := packedBits_of_lt hl
    refine ⟨htaken.trans hp, hout.trans ?_⟩
    rw [Dispatch.conclude, Operation.payload_readBits he, hp]
    rfl
  · intro hl
    have hp := packedBits_of_le hl
    have ht := takenFrom_packBits_take hl
    refine ⟨_, _, htaken.trans hp, ht, hout.trans ?_, rfl, ht.hold⟩
    exact conclude_readBits table rfl ((Operation.payload_readBits he).trans hp)

/-- Ten inputs of a unit that sends three bytes of them. The third byte is dropped, and what the
second one has behind the tenth input is kept. -/
theorem reads_ten_inputs :
    let wire : List UInt8 := [0xAC, 0xDB, 0x35]
    let r : Response := { bits := (List.range 24).map (bitAt wire) }
    let ps : Params := [("slave_id", .int 1), ("address", .int 196), ("quantity", .int 10)]
    let device : Framer → Request → StateM Nat (Except Fault Response) :=
      fun _ _ n => (.ok r, n + 1)
    ((call device .rtu "modbus-read-discrete" (some ps)).run 0).1 = .ok (.list [0xACDB]) := by
  intro wire r ps device
  have h : ps.HasRange 2000 1 196 10 :=
    ⟨.inl ⟨rfl, by decide⟩, ⟨rfl, by decide⟩, ⟨rfl, by decide⟩⟩
  have hw : (r.bits.length : Int) = 24 ∧ AreBits wire r.bits :=
    (areBits_iff (q := 24) (by decide)).mpr rfl
  obtain ⟨payload, values, -, ht, hout, rfl, -⟩ :=
    (reads_bits device 0 .rtu .discreteInputs (some ps) .readDiscrete h rfl (by decide)).2
      (by decide)
  rw [ht.wire wire hw.2 (by decide)] at hout
  exact hout.trans (by decide)

end Service

end ModbusRpc
