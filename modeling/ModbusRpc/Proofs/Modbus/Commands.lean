import ModbusRpc.Proofs.Payload.Words
import ModbusRpc.Proofs.Success
import ModbusRpc.Rpc.Coil

/-! # The commands of operations

Which operations keep the limits of their functions, and the commands that they become. The payload
of a multiple write is unpacked into bits, the least significant first, or into big-endian words.
-/

namespace ModbusRpc

variable {quantity greatest expected unit : Int} {payload : List UInt8} {c : Command}
  {r : Request}

theorem checkQuantity_eq_ok_iff {u : Unit} :
    checkQuantity quantity greatest = .ok u ↔ 1 ≤ quantity ∧ quantity ≤ greatest := by
  unfold checkQuantity
  split <;> simp [*]

theorem checkByteCount_eq_ok_iff {u : Unit} : checkByteCount payload expected = .ok u ↔
    payload.length ≤ 255 ∧ (payload.length : Int) = expected := by
  unfold checkByteCount maxByteCount
  by_cases h : 255 < payload.length
  · simp [h, Nat.not_le.mpr h]
  · by_cases he : (payload.length : Int) = expected <;> simp [h, he, Nat.not_lt.mp h]

theorem checkQuantity_bind_iff {x : Except Fault Command} :
    (checkQuantity quantity greatest >>= fun _ => x) = .ok c ↔
      (1 ≤ quantity ∧ quantity ≤ greatest) ∧ x = .ok c := by
  simp only [bind_eq_ok_iff, checkQuantity_eq_ok_iff, exists_const]

theorem checkByteCount_bind_iff {x : Except Fault Command} :
    (checkByteCount payload expected >>= fun _ => x) = .ok c ↔
      (payload.length ≤ 255 ∧ payload.length = expected) ∧ x = .ok c := by
  simp only [bind_eq_ok_iff, checkByteCount_eq_ok_iff, exists_const]

theorem Coil.encode_eq_ok_iff {n state : Int} : encode n = .ok state ↔
    ∃ on : Bool, n = (if on then 1 else 0) ∧ state = if on then coilOn else coilOff := by
  unfold encode
  constructor
  · intro h
    split at h
    case isTrue hn => exact ⟨true, hn, (Except.ok.inj h).symm⟩
    case isFalse =>
      obtain ⟨hn, he⟩ := ite_eq_ok_iff.mp h
      exact ⟨false, hn, (Except.ok.inj he).symm⟩
  · rintro ⟨on, rfl, rfl⟩
    cases on <;> rfl

namespace Operation

variable {address : Int} {op : Operation}

theorem request_eq_ok_iff :
    op.request unit = .ok r ↔
      r.unit = unit ∧ r.address = op.address ∧ op.command = .ok r.command := by
  unfold request
  cases op.command with
  | error fault => simp [Except.map]
  | ok c =>
    obtain ⟨u, a, d⟩ := r
    simp [Except.map, eq_comm]

theorem command_readBits_iff {table : BitTable} :
    (readBits table address quantity).command = .ok c ↔
      (1 ≤ quantity ∧ quantity ≤ 2000) ∧ c = .readBits table quantity := by
  rw [command, maxReadBits, checkQuantity_bind_iff, Except.ok.injEq, @eq_comm _ c]

theorem command_readWords_iff {table : WordTable} :
    (readWords table address quantity).command = .ok c ↔
      (1 ≤ quantity ∧ quantity ≤ 125) ∧ c = .readWords table quantity := by
  rw [command, maxReadWords, checkQuantity_bind_iff, Except.ok.injEq, @eq_comm _ c]

theorem command_writeCoil {on : Bool} :
    (writeCoil address (if on then coilOn else coilOff)).command = .ok (.writeCoil on) := by
  cases on <;> rfl

theorem command_writeCoils_iff : (writeCoils address quantity payload).command = .ok c ↔
    (1 ≤ quantity ∧ quantity ≤ 1968) ∧ (payload.length : Int) = (quantity + 7) / 8 ∧
      c = .writeCoils ((List.range quantity.toNat).map (bitAt payload)) := by
  rw [command, maxWriteBits, checkQuantity_bind_iff]
  refine and_congr_right fun hq => ?_
  have he : ((bytesFor quantity.toNat : Nat) : Int) = (quantity + 7) / 8 := by
    unfold bytesFor
    omega
  rw [checkByteCount_bind_iff, he]
  constructor
  · rintro ⟨⟨_, hl⟩, hc⟩
    rw [unpackBits_of_le (by omega)] at hc
    exact ⟨hl, (Except.ok.inj hc).symm⟩
  · rintro ⟨hl, rfl⟩
    rw [unpackBits_of_le (by omega)]
    exact ⟨⟨by omega, hl⟩, rfl⟩

theorem command_writeRegisters_iff : (writeRegisters address quantity payload).command = .ok c ↔
    (1 ≤ quantity ∧ quantity ≤ 123) ∧ (payload.length : Int) = 2 * quantity ∧
      c = .writeRegisters (words payload) := by
  rw [command, maxWriteWords, checkQuantity_bind_iff]
  refine and_congr_right fun hq => ?_
  rw [checkByteCount_bind_iff, Int.mul_comm]
  constructor
  · rintro ⟨⟨_, hl⟩, hc⟩
    rw [unpackExactly_of_length hl] at hc
    exact ⟨hl, (Except.ok.inj hc).symm⟩
  · rintro ⟨hl, rfl⟩
    rw [unpackExactly_of_length hl]
    exact ⟨⟨by omega, hl⟩, rfl⟩

end Operation

end ModbusRpc
