import ModbusRpc.Proofs.Modbus.Payloads
import ModbusRpc.Proofs.Payload.Bits
import ModbusRpc.Proofs.Rpc.Ranges

/-! # Coils written and read back

A payload of coils is sent bit by bit, and what it has behind the last coil is dropped. The coils
that are read back are packed into the same payload with these bits cleared, and the values of the
call are the values in it.
-/

namespace ModbusRpc

variable {q : Int} {payload : List UInt8} {r : Response} {pad : Nat}

theorem packedBits_of_padded (hl : (payload.length : Int) = (q + 7) / 8) (hq : 0 ≤ q)
    (hb : r.bits = (List.range q.toNat).map (bitAt payload) ++ List.replicate pad false)
    (h8 : 8 ∣ r.bits.length) : packedBits r q = .ok (keepBits q.toNat payload) := by
  have hn : r.bits.length = q.toNat + pad := by simp [hb]
  have hf : payload.length = bytesFor q.toNat := by
    unfold bytesFor
    omega
  obtain ⟨k, hk⟩ := h8
  have hle : q.toNat ≤ bytesFor q.toNat * 8 ∧ bytesFor q.toNat * 8 ≤ q.toNat + pad := by
    unfold bytesFor
    omega
  have ht : r.bits.take (bytesFor q.toNat * 8) = (List.range q.toNat).map (bitAt payload) ++
      List.replicate (bytesFor q.toNat * 8 - q.toNat) false := by
    rw [hb, List.take_append, List.take_of_length_le (by simpa using hle.1), List.take_replicate,
      List.length_map, List.length_range, Nat.min_eq_left (by omega)]
  rw [packedBits_of_le (by omega), ht, packBits_bitAt_append hf (by omega)]

namespace Service

variable {u a : Int}

theorem conclude_readCoil {d : Dispatch} (hm : d.method = .readCoil)
    (ho : d.operation = .readBits .coils a q) (hl : (payload.length : Int) = (q + 7) / 8)
    (hq : 0 ≤ q) (hr : r.functionCode ≤ 128)
    (hb : r.bits = (List.range q.toNat).map (bitAt payload) ++ List.replicate pad false)
    (h8 : 8 ∣ r.bits.length) :
    d.conclude r = .ok (.list (payloadValues (keepBits q.toNat payload))) := by
  apply conclude_readBits .coils hm
  rw [ho, Operation.payload_readBits hr, packedBits_of_padded hl hq hb h8]

/-- A call that writes coils sends the bits of its payload up to its quantity, the least significant
of each byte first. If a read of as many coils is answered with these bits later on, whatever the
device has gone through since, and filled up to whole bytes, the call that reads ends with the
values in the payload with all other bits cleared. -/
theorem writes_and_reads_coils (hu : 0 ≤ u ∧ u ≤ 255) (ha : IsWord a) (hq : 1 ≤ q ∧ q ≤ 1968)
    (hl : (payload.length : Int) = (q + 7) / 8) :
    let bits := (List.range q.toNat).map (bitAt payload)
    let kept := keepBits q.toNat payload
    ((bits.length : Int) = q ∧ AreBits payload bits) ∧
    (kept.length = payload.length ∧
      (∀ i : Nat, bitAt kept i = (decide ((i : Int) < q) && bitAt payload i)) ∧
      (8 ∣ q → kept = payload)) ∧
    (∃ ps : Params, ps.HasPayload 1968 u a q payload) ∧
    ∀ ps : Option Params, (ps.getD []).HasPayload 1968 u a q payload →
      (∀ answer mode, sent answer mode "modbus-write-multiple-coils" ps =
        [(mode.framer u, ⟨u, a, .writeCoils bits⟩)]) ∧
      ∀ {σ : Type} (device : Framer → Request → StateM σ (Except Fault Response))
          (between : StateM σ Unit) (s : σ) (mode mode' : Mode) (ps' : Option Params) (u' : Int)
          (r : Response) (pad : Nat),
        (ps'.getD []).HasRange 2000 u' a q →
        ((device (mode.framer u) ⟨u, a, .writeCoils bits⟩ *> between *>
          device (mode'.framer u') ⟨u', a, .readBits .coils q⟩).run s).1 = .ok r →
        r.functionCode ≤ 128 → r.bits = bits ++ List.replicate pad false → 8 ∣ r.bits.length →
        ((call device mode "modbus-write-multiple-coils" ps *> between *>
          call device mode' "modbus-read-coil" ps').run s).1 =
            .ok (.list (payloadValues kept)) := by
  intro bits kept
  have h0 : 0 ≤ q := by omega
  refine ⟨(areBits_iff h0).mpr rfl, ⟨length_keepBits, fun i => ?_, fun h8 => ?_⟩,
    Params.exists_hasPayload hu ha hq payload, fun ps h => ⟨?_, ?_⟩⟩
  · rw [bitAt_keepBits, decide_eq_decide.mpr (show i < q.toNat ↔ (i : Int) < q by omega)]
  · exact keepBits_of_le (by omega)
  · exact fun answer mode => sent_of_ok answer mode (dispatch_writeCoils h hl)
  · intro σ device between s mode mode' ps' u' r pad h' hr he hb h8
    rw [run_call_seqRight_call (dispatch_writeCoils h hl) (dispatch_readCoil h') hr]
    exact conclude_readCoil rfl rfl hl h0 he hb h8

/-- Ten coils are kept by a device that has no others. Six bits of the payload are lost. -/
theorem writes_and_reads_ten_coils :
    let device : Framer → Request → StateM (List Bool) (Except Fault Response) := fun _ q coils =>
      match q.command with
      | .writeCoils bits => (.ok { address := q.address, count := bits.length }, bits)
      | _ => (.ok { bits := coils ++ List.replicate 6 false }, coils)
    let ps : Params := [("slave_id", .int 17), ("address", .int 19), ("quantity", .int 10),
      ("value", .text "zf8=")]
    ((call device .rtu "modbus-write-multiple-coils" (some ps) *> pure () *>
      call device .rtu "modbus-read-coil" (some ps)).run []).1 = .ok (.list [0xCD03]) := by
  intro device ps
  have h : ps.HasPayload 1968 17 19 10 [0xCD, 0xFF] := by
    refine ⟨⟨.inl ⟨rfl, by decide⟩, ⟨rfl, by decide⟩, ⟨rfl, by decide⟩⟩, ?_⟩
    exact ⟨_, rfl, Base64.means_iff.mpr rfl⟩
  have h' : ps.HasRange 2000 17 19 10 := ⟨h.unit, h.address, ⟨rfl, by decide⟩⟩
  have hl : (([0xCD, 0xFF] : List UInt8).length : Int) = (10 + 7) / 8 := by decide
  obtain ⟨-, -, -, hc⟩ := writes_and_reads_coils (u := 17) (a := 19) (by decide) (by decide)
    (by decide) hl
  exact (hc (some ps) h).2 device (pure ()) [] .rtu .rtu (some ps) 17
    { bits := (List.range 10).map (bitAt [0xCD, 0xFF]) ++ List.replicate 6 false } 6 h' rfl
    (by decide) rfl (by decide)

end Service

end ModbusRpc
