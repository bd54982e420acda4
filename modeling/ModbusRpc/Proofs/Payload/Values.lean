import ModbusRpc.Proofs.Payload.Bits
import ModbusRpc.Proofs.Payload.Words

/-! # A payload in its values

A payload of odd length has one value for each byte, and one of even length has one for each two
bytes, the first of them in the high half. Either way each bit of the payload is in one value, and
the payload can be told from its values and the parity of its length.
-/

namespace ModbusRpc

variable {bytes : List UInt8} {i : Nat}

/-- Bit `i` of a payload of `count` bytes, looked up in the values of the payload. -/
def bitIn (count : Nat) (values : List Int) (i : Nat) : Bool :=
  if count % 2 = 1 then (values.getD (i / 8) 0).toNat.testBit (i % 8)
  else (values.getD (i / 16) 0).toNat.testBit (i % 8 + 8 * (1 - i / 8 % 2))

theorem length_payloadValues (bytes : List UInt8) : (payloadValues bytes).length =
    if bytes.length % 2 = 1 then bytes.length else bytes.length / 2 := by
  split
  case isTrue h => rw [payloadValues_of_odd h, List.length_map]
  case isFalse h => rw [payloadValues_of_even (by omega), length_words]

theorem testBit_word (high low : UInt8) (i : Nat) : (word high low).toNat.testBit i =
    if i < 8 then low.toNat.testBit i else high.toNat.testBit (i - 8) := by
  have hw : (word high low).toNat = 2 ^ 8 * high.toNat + low.toNat := by
    unfold word
    omega
  rw [hw]
  exact Nat.testBit_two_pow_mul_add _ low.toNat_lt i

theorem getD_payloadValues_of_odd (h : bytes.length % 2 = 1) (k : Nat) :
    (payloadValues bytes).getD k 0 = (bytes.getD k 0).toNat := by
  rw [payloadValues_of_odd h, List.getD_eq_getElem?_getD, List.getD_eq_getElem?_getD,
    List.getElem?_map]
  cases bytes[k]? <;> rfl

theorem getD_payloadValues_of_even (h : bytes.length % 2 = 0) {k : Nat}
    (hk : k < bytes.length / 2) :
    (payloadValues bytes).getD k 0 = word (bytes.getD (2 * k) 0) (bytes.getD (2 * k + 1) 0) := by
  have hk' : k < (words bytes).length := by rwa [length_words]
  rw [payloadValues_of_even h, List.getD_eq_getElem _ _ hk', getElem_words]

theorem bitIn_payloadValues (hi : i < 8 * bytes.length) :
    bitIn bytes.length (payloadValues bytes) i = bitAt bytes i := by
  unfold bitIn bitAt
  split
  case isTrue h => rw [getD_payloadValues_of_odd h, Int.toNat_natCast]
  case isFalse h =>
    rw [getD_payloadValues_of_even (by omega) (by omega), testBit_word]
    -- The even bytes are the high halves.
    rcases Nat.mod_two_eq_zero_or_one (i / 8) with hb | hb
    · have hi' : 2 * (i / 16) = i / 8 := by omega
      rw [if_neg (by omega), hi', hb]
      rfl
    · have hi' : 2 * (i / 16) + 1 = i / 8 := by omega
      rw [if_pos (by omega), hi', hb]
      rfl

/-! ### Nothing is lost -/

/-- The bytes that values have been read from: one byte for each of them if the payload was of odd
length, and two bytes, the high one first, if it was of even length. -/
def payloadOf (parity : Nat) (values : List Int) : List UInt8 :=
  if parity = 1 then values.map fun v => v.toNat.toUInt8 else values.flatMap wordBytes

theorem payloadOf_payloadValues (bytes : List UInt8) :
    payloadOf (bytes.length % 2) (payloadValues bytes) = bytes := by
  unfold payloadOf
  split
  case isTrue h =>
    have hb : ∀ b : UInt8, (b.toNat : Int).toNat.toUInt8 = b := fun b => by
      rw [Int.toNat_natCast, Nat.toUInt8_eq, UInt8.ofNat_toNat]
    rw [payloadValues_of_odd h, List.map_map]
    exact (List.map_congr_left fun b _ => hb b).trans (List.map_id' bytes)
  case isFalse h =>
    rw [payloadValues_of_even (by omega), flatMap_wordBytes_words (by omega)]

/-- The values in packed words are these words. From the values in a payload and the parity of its
length the payload can be told, so that there is no other with the same values and parity. All
values are words, those of a payload of odd length are bytes, and no byte is left without a
value. -/
theorem payloadValues_lossless (ws : List Int) (bytes bytes' : List UInt8) :
    ((∀ w ∈ ws, IsWord w) →
      packExactly ws.length ws = .ok (ws.flatMap wordBytes) ∧
      payloadValues (ws.flatMap wordBytes) = ws) ∧
    payloadOf (bytes.length % 2) (payloadValues bytes) = bytes ∧
    (bytes.length % 2 = bytes'.length % 2 → payloadValues bytes = payloadValues bytes' →
      bytes = bytes') ∧
    (∀ v ∈ payloadValues bytes, 0 ≤ v ∧ v ≤ 0xFFFF) ∧
    (bytes.length % 2 = 1 →
      (∀ v ∈ payloadValues bytes, 0 ≤ v ∧ v ≤ 0xFF) ∧
      (payloadValues bytes).length = bytes.length) ∧
    (bytes.length % 2 = 0 → 2 * (payloadValues bytes).length = bytes.length) := by
  refine ⟨fun hw => ?_, payloadOf_payloadValues bytes, fun hp hv => ?_,
    fun v hv => isWord_of_mem_payloadValues hv, fun h => ?_, fun h => ?_⟩
  · exact ⟨packExactly_of_isWord rfl hw, payloadValues_flatMap_wordBytes hw⟩
  · calc bytes = payloadOf (bytes.length % 2) (payloadValues bytes) :=
          (payloadOf_payloadValues bytes).symm
      _ = payloadOf (bytes'.length % 2) (payloadValues bytes') := by rw [hp, hv]
      _ = bytes' := payloadOf_payloadValues bytes'
  · exact ⟨fun v hv => byte_of_mem_payloadValues h hv, by rw [length_payloadValues, if_pos h]⟩
  · rw [length_payloadValues, if_neg (by omega)]
    omega

theorem payloadValues_lossless_three :
    (∀ w ∈ ([0x0102, 0xFFFF] : List Int), IsWord w) ∧
    payloadValues [1, 2, 0xFF, 0xFF] = [0x0102, 0xFFFF] ∧
    payloadOf 1 (payloadValues [0xCD, 1, 0xFF]) = [0xCD, 1, 0xFF] ∧
    (∀ v ∈ payloadValues [0xCD, 1, 0xFF], 0 ≤ v ∧ v ≤ 0xFF) ∧
    [1, 2, 0xFF, 0xFF] = wordBytes 0x0102 ++ wordBytes 0xFFFF ∧
    2 * (payloadValues [1, 2, 0xFF, 0xFF]).length = 4 := by
  have hw : ∀ w ∈ ([0x0102, 0xFFFF] : List Int), IsWord w := by decide
  obtain ⟨hv, -, hi, -, -, he⟩ := payloadValues_lossless [0x0102, 0xFFFF] [1, 2, 0xFF, 0xFF]
    (wordBytes 0x0102 ++ wordBytes 0xFFFF)
  obtain ⟨-, hp, -, -, ho, -⟩ := payloadValues_lossless [] [0xCD, 1, 0xFF] []
  exact ⟨hw, (hv hw).2, hp, (ho (by decide)).1, hi (by decide) (by decide), he (by decide)⟩

end ModbusRpc
