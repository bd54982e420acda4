import ModbusRpc.Proofs.Modbus.Payloads
import ModbusRpc.Proofs.Rpc.Ranges

/-! # Registers written and read back

A payload of registers is sent as big-endian words, and these are the values in it. A read gives
just the registers of its response, if there are as many as it has asked for. So the words that have
been written are read back as they are.
-/

namespace ModbusRpc

variable {q : Int} {r : Response}

namespace Service

variable {a : Int} {table : WordTable} {d : Dispatch}

theorem conclude_readWords (hm : d.method = table.readMethod)
    (ho : d.operation = .readWords table a q) (hr : r.functionCode ≤ 128)
    (hl : (r.registers.length : Int) = q) (hw : ∀ w ∈ r.registers, IsWord w) :
    d.conclude r = .ok (.list r.registers) := by
  have hp : d.operation.payload r = .ok (r.registers.flatMap wordBytes) := by
    rw [ho, Operation.payload_readWords hr, packedRegisters_of_length hl hw]
  rw [Dispatch.conclude_of_payload (hm ▸ table.readMethod_ne) hp,
    payloadValues_flatMap_wordBytes hw]

theorem conclude_readWords_of_ne (ho : d.operation = .readWords table a q)
    (hr : r.functionCode ≤ 128) (hl : (r.registers.length : Int) ≠ q) :
    d.conclude r = .error (.response (.registerCount r.registers.length q)) := by
  rw [Dispatch.conclude, ho, Operation.payload_readWords hr, packedRegisters_of_ne hl]
  rfl

/-- A call that writes registers sends the big-endian words of its payload, which are the values in
it. A call that reads registers ends with those of the response, or in a fault if they are more or
less than it has asked for. So if a read is answered later on with the words that were sent, the
call that reads ends with the values in the payload. -/
theorem writes_and_reads_registers :
    (∀ {u a q : Int} {payload : List UInt8}, 0 ≤ u ∧ u ≤ 255 → IsWord a → 1 ≤ q ∧ q ≤ 123 →
      (payload.length : Int) = 2 * q →
      let ws := payloadValues payload
      ((ws.length : Int) = q ∧ AreWords payload ws) ∧
      (∃ ps : Params, ps.HasPayload 123 u a q payload) ∧
      ∀ ps : Option Params, (ps.getD []).HasPayload 123 u a q payload →
        (∀ answer mode, sent answer mode "modbus-write-multiple-registers" ps =
          [(mode.framer u, ⟨u, a, .writeRegisters ws⟩)]) ∧
        ∀ {σ : Type} (device : Framer → Request → StateM σ (Except Fault Response))
            (between : StateM σ Unit) (s : σ) (mode mode' : Mode) (table : WordTable)
            (name : String) (ps' : Option Params) (u' : Int) (r : Response),
          Method.Named name table.readMethod → (ps'.getD []).HasRange 125 u' a q →
          ((device (mode.framer u) ⟨u, a, .writeRegisters ws⟩ *> between *>
            device (mode'.framer u') ⟨u', a, .readWords table q⟩).run s).1 = .ok r →
          r.functionCode ≤ 128 → r.registers = ws →
          ((call device mode "modbus-write-multiple-registers" ps *> between *>
            call device mode' name ps').run s).1 = .ok (.list ws)) ∧
    ∀ (answer : List (Framer × Request) → Except Fault Response) (mode : Mode) (table : WordTable)
        (name : String) (ps : Option Params) (u a q : Int) (r : Response),
      Method.Named name table.readMethod → (ps.getD []).HasRange 125 u a q →
      answer [(mode.framer u, ⟨u, a, .readWords table q⟩)] = .ok r → r.functionCode ≤ 128 →
      ((r.registers.length : Int) = q → (∀ w ∈ r.registers, IsWord w) →
        outcome answer mode name ps = .ok (.list r.registers)) ∧
      ((r.registers.length : Int) ≠ q →
        outcome answer mode name ps =
          .error (.response (.registerCount r.registers.length q))) := by
  constructor
  · intro u a q payload hu ha hq hl ws
    have hws : ws = words payload := payloadValues_of_even (by omega)
    obtain ⟨hn, hwords⟩ := (areWords_iff hl).mpr hws
    refine ⟨⟨hn, hwords⟩, Params.exists_hasPayload hu ha hq payload, fun ps h => ?_⟩
    have hd := hws ▸ dispatch_writeRegisters h hl
    refine ⟨fun answer mode => sent_of_ok answer mode hd, ?_⟩
    intro σ device between s mode mode' table name ps' u' r hn' h' hr he hs
    rw [run_call_seqRight_call hd (dispatch_readWords table hn' h') hr, ← hs]
    refine conclude_readWords rfl rfl he (hs ▸ hn) fun w hw => ?_
    exact isWord_of_mem_payloadValues (hs ▸ hw)
  · intro answer mode table name ps u a q r hn h ha hr
    have ho := outcome_of_ok answer mode (dispatch_readWords table hn h)
    rw [ha] at ho
    exact ⟨fun hl hw => ho.trans (conclude_readWords rfl rfl hr hl hw),
      fun hl => ho.trans (conclude_readWords_of_ne rfl hr hl)⟩

/-- Two registers, with a high byte in one and a low byte in the other, are kept by a device that
has no others. A response with one of them is not taken for both. -/
theorem writes_and_reads_two_registers :
    let device : Framer → Request → StateM (List Int) (Except Fault Response) := fun _ q kept =>
      match q.command with
      | .writeRegisters ws => (.ok { address := q.address, count := ws.length }, ws)
      | _ => (.ok { registers := kept }, kept)
    let ps : Params := [("address", .int 1), ("quantity", .int 2), ("value", .text "/wAAAQ==")]
    ((call device .tcp "modbus-write-multiple-registers" (some ps) *> pure () *>
      call device .tcp "modbus-read-holding" (some ps)).run []).1 = .ok (.list [0xFF00, 1]) ∧
    outcome (fun _ => .ok { registers := [0xFF00, 1] }) .tcp "modbus-read-input" (some ps) =
      .ok (.list [0xFF00, 1]) ∧
    outcome (fun _ => .ok { registers := [0xFF00] }) .tcp "modbus-read-input" (some ps) =
      .error (.response (.registerCount 1 2)) := by
  intro device ps
  have h : ps.HasPayload 123 0 1 2 [0xFF, 0, 0, 1] := by
    refine ⟨⟨.inr ⟨.inl rfl, rfl⟩, ⟨rfl, by decide⟩, ⟨rfl, by decide⟩⟩, ?_⟩
    exact ⟨_, rfl, Base64.means_iff.mpr rfl⟩
  have h' : ps.HasRange 125 0 1 2 := ⟨h.unit, h.address, ⟨rfl, by decide⟩⟩
  obtain ⟨hw, hr⟩ := writes_and_reads_registers
  have hl : (([0xFF, 0, 0, 1] : List UInt8).length : Int) = 2 * 2 := by decide
  obtain ⟨-, -, hc⟩ := hw (u := 0) (a := 1) (by decide) (by decide) (by decide) hl
  refine ⟨?_, ?_, ?_⟩
  · exact (hc (some ps) h).2 device (pure ()) [] .tcp .tcp .holdingRegisters _ (some ps)
      0 { registers := [0xFF00, 1] } .readHolding h' rfl (by decide) rfl
  · exact (hr (fun _ => .ok { registers := [0xFF00, 1] }) .tcp .inputRegisters _ (some ps) 0 1 2 _
      .readInput h' rfl (by decide)).1 rfl (by decide)
  · exact (hr (fun _ => .ok { registers := [0xFF00] }) .tcp .inputRegisters _ (some ps) 0 1 2 _
      .readInput h' rfl (by decide)).2 (by decide)

end Service

end ModbusRpc
