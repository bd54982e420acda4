import ModbusRpc.Proofs.Modbus.Commands

/-! # The payloads of operations

An operation whose command can be made is refused for nothing but its limits, and then every
response either breaks a rule or gives a payload with values in it. What a payload is made of always
fits into bytes and words, provided that the registers of the response do.
-/

namespace ModbusRpc

variable {op : Operation} {r : Response} {c : Command} {fault : Fault} {value : Int}
  {echoed : Option Int} {address quantity : Int}

theorem Response.isException_iff : r.isException = true ↔ 128 < r.functionCode :=
  decide_eq_true_iff

theorem Response.not_isException (h : r.functionCode ≤ 128) : ¬ r.isException = true :=
  mt isException_iff.mp (Int.not_lt.mpr h)

/-- The response gives a payload with values in it, or breaks a rule. -/
inductive Answers (x : Except Fault (List UInt8)) : Prop where
  | payload {bytes : List UInt8} : bytes ≠ [] → x = .ok bytes → Answers x
  | broken {f : ResponseFault} : f ≠ .emptyAcknowledgement → x = .error (.response f) → Answers x

theorem packedWords_of_isWord {ws : List Int} (hl : (ws.length : Int) = quantity)
    (h : ∀ w ∈ ws, IsWord w) : packedWords quantity ws = .ok (ws.flatMap wordBytes) := by
  rw [packedWords, packExactly_of_isWord hl h]
  rfl

theorem checkQuantity_eq_error {greatest : Int}
    (h : checkQuantity quantity greatest = .error fault) : ∃ f, fault = .request f := by
  unfold checkQuantity at h
  split at h
  · cases h
  · cases h
    exact ⟨_, rfl⟩

theorem checkByteCount_eq_error {payload : List UInt8} {expected : Int}
    (h : checkByteCount payload expected = .error fault) : ∃ f, fault = .request f := by
  unfold checkByteCount at h
  split at h
  · cases h
    exact ⟨_, rfl⟩
  · split at h
    · cases h
      exact ⟨_, rfl⟩
    · cases h

/-! ### Echoes and reads -/

theorem writeEcho_of_address_ne (h : r.address ≠ address) :
    writeEcho r echoed address value = .error (.response (.address r.address address)) := if_pos h

theorem writeEcho_of_ne (ha : r.address = address) (h : echoed ≠ some value) :
    writeEcho r echoed address value = .error (.response (.value echoed value)) := by
  rw [writeEcho, if_neg (not_not.mpr ha), if_pos h]

theorem writeEcho_of_eq (ha : r.address = address) (h : echoed = some value) (hv : IsWord value) :
    writeEcho r echoed address value = .ok (wordBytes value) := by
  have hl : (([value] : List Int).length : Int) = 1 := rfl
  rw [writeEcho, if_neg (not_not.mpr ha), if_neg (not_not.mpr h),
    packedWords_of_isWord hl (List.forall_mem_singleton.mpr hv), List.flatMap_singleton]

theorem writeEcho_cases (r : Response) (echoed : Option Int) (address : Int) (hv : IsWord value) :
    (∃ f, f ≠ .emptyAcknowledgement ∧
      writeEcho r echoed address value = .error (.response f)) ∨
      writeEcho r echoed address value = .ok (wordBytes value) := by
  by_cases ha : r.address = address
  · by_cases h : echoed = some value
    · exact .inr (writeEcho_of_eq ha h hv)
    · exact .inl ⟨_, by simp, writeEcho_of_ne ha h⟩
  · exact .inl ⟨_, by simp, writeEcho_of_address_ne ha⟩

theorem payloadValues_wordBytes (hv : IsWord value) :
    payloadValues (wordBytes value) = [value] := by
  simpa using payloadValues_flatMap_wordBytes (List.forall_mem_singleton.mpr hv)

theorem Coil.normalize_wordBytes (on : Bool) :
    Coil.normalize (payloadValues (wordBytes (if on then coilOn else coilOff))) =
      .ok (if on then 1 else 0) := by
  have hs : IsWord (if on then coilOn else coilOff) := by cases on <;> decide
  rw [payloadValues_wordBytes hs]
  cases on <;> rfl

theorem answers_writeEcho (hv : IsWord value) : Answers (writeEcho r echoed address value) := by
  rcases writeEcho_cases r echoed address hv with ⟨f, hf, h⟩ | h
  · exact .broken hf h
  · exact .payload (by simp [wordBytes]) h

theorem packedBits_of_lt (h : (r.bits.length : Int) < quantity) :
    packedBits r quantity = .error (.response (.fewBits r.bits.length quantity)) := if_pos h

theorem packedBits_of_le (h : quantity ≤ r.bits.length) :
    packedBits r quantity = .ok (packBits (r.bits.take (bytesFor quantity.toNat * 8))) :=
  if_neg (Int.not_lt.mpr h)

theorem length_packBits_take (h : quantity ≤ r.bits.length) :
    (packBits (r.bits.take (bytesFor quantity.toNat * 8))).length = bytesFor quantity.toNat := by
  rw [length_packBits, List.length_take]
  unfold bytesFor
  omega

theorem answers_packedBits (hq : 1 ≤ quantity) : Answers (packedBits r quantity) := by
  by_cases h : quantity ≤ r.bits.length
  · refine .payload ?_ (packedBits_of_le h)
    apply List.length_pos_iff.mp
    rw [length_packBits_take h]
    unfold bytesFor
    omega
  · exact .broken (by simp) (packedBits_of_lt (by omega))

theorem packedRegisters_of_length (hl : (r.registers.length : Int) = quantity)
    (hw : ∀ w ∈ r.registers, IsWord w) :
    packedRegisters r quantity = .ok (r.registers.flatMap wordBytes) := by
  rw [packedRegisters, if_neg (not_not.mpr hl), packedWords_of_isWord hl hw]

theorem packedRegisters_of_ne (hl : (r.registers.length : Int) ≠ quantity) :
    packedRegisters r quantity =
      .error (.response (.registerCount r.registers.length quantity)) := if_pos hl

theorem answers_packedRegisters (hq : 1 ≤ quantity) (hw : ∀ w ∈ r.registers, IsWord w) :
    Answers (packedRegisters r quantity) := by
  by_cases hl : (r.registers.length : Int) = quantity
  · refine .payload ?_ (packedRegisters_of_length hl hw)
    apply List.length_pos_iff.mp
    rw [length_flatMap_wordBytes]
    omega
  · exact .broken (by simp) (packedRegisters_of_ne hl)

namespace Operation

/-- Nothing but the limits of its function refuses an operation: its payload can be unpacked. -/
theorem command_eq_error (h : op.command = .error fault) : ∃ f, fault = .request f := by
  cases op with
  | readBits table address quantity | readWords table address quantity =>
    rcases bind_eq_error_iff.mp h with h | ⟨_, _, h⟩
    · exact checkQuantity_eq_error h
    · cases h
  | writeCoil address state =>
    simp only [command] at h
    split at h
    · cases h
    · cases h
      exact ⟨_, rfl⟩
  | writeRegister address value => cases h
  | writeCoils address quantity payload =>
    rcases bind_eq_error_iff.mp h with h | ⟨_, hq, h⟩
    · exact checkQuantity_eq_error h
    · rcases bind_eq_error_iff.mp h with h | ⟨_, hb, h⟩
      · exact checkByteCount_eq_error h
      · have hl := (checkByteCount_eq_ok_iff.mp hb).2
        unfold bytesFor at hl
        rw [unpackBits_of_le (by omega)] at h
        cases h
  | writeRegisters address quantity payload =>
    rcases bind_eq_error_iff.mp h with h | ⟨_, hq, h⟩
    · exact checkQuantity_eq_error h
    · rcases bind_eq_error_iff.mp h with h | ⟨_, hb, h⟩
      · exact checkByteCount_eq_error h
      · have hl := (checkByteCount_eq_ok_iff.mp hb).2
        rw [unpackExactly_of_length (by omega)] at h
        cases h

theorem request_eq_error {unit : Int} (h : op.request unit = .error fault) :
    ∃ f, fault = .request f := by
  unfold request at h
  cases hc : op.command with
  | error f =>
    rw [hc] at h
    cases h
    exact command_eq_error hc
  | ok c =>
    rw [hc] at h
    cases h

theorem payload_of_exception (h : r.isException = true) :
    op.payload r = .error (.exception r.functionCode r.exceptionCode) := if_pos h

theorem payload_readBits {table : BitTable} (h : r.functionCode ≤ 128) :
    (readBits table address quantity).payload r = packedBits r quantity :=
  if_neg (Response.not_isException h)

theorem payload_readWords {table : WordTable} (h : r.functionCode ≤ 128) :
    (readWords table address quantity).payload r = packedRegisters r quantity :=
  if_neg (Response.not_isException h)

theorem answers_payload (hc : op.command = .ok c) (hn : ∀ n, c = .writeRegister n → IsWord n)
    (hr : r.isException = false) (hw : ∀ w ∈ r.registers, IsWord w) : Answers (op.payload r) := by
  have hr : ¬ r.isException = true := by simp [hr]
  unfold payload
  rw [if_neg hr]
  cases op with
  | readBits table address quantity =>
    exact answers_packedBits (command_readBits_iff.mp hc).1.1
  | readWords table address quantity =>
    exact answers_packedRegisters (command_readWords_iff.mp hc).1.1 hw
  | writeCoil address state =>
    obtain ⟨hs, -⟩ := ite_eq_ok_iff.mp hc
    apply answers_writeEcho
    rcases hs with rfl | rfl <;> decide
  | writeRegister address value => exact answers_writeEcho (hn _ (Except.ok.inj hc).symm)
  | writeCoils address quantity payload =>
    obtain ⟨hq, -⟩ := command_writeCoils_iff.mp hc
    exact answers_writeEcho ⟨by omega, by omega⟩
  | writeRegisters address quantity payload =>
    obtain ⟨hq, -⟩ := command_writeRegisters_iff.mp hc
    exact answers_writeEcho ⟨by omega, by omega⟩

end Operation

end ModbusRpc
