import Mathlib.Data.List.GetD
import Mathlib.Data.Nat.Bitwise
import ModbusRpc.Payload.Bits

/-! # The bits of a payload

A row of bytes is known by its length and its bits. Packing a list of bits gives the bytes that have
these bits and no others, so unpacking gives the list back, and bits that have been unpacked are
packed into what they were taken from.
-/

namespace ModbusRpc

variable {bytes bytes' : List UInt8} {bits : List Bool} {count i : Nat}

/-- The same bytes with all bits from bit `count` on cleared. -/
def keepBits (count : Nat) (bytes : List UInt8) : List UInt8 :=
  bytes.mapIdx fun i b => (b.toNat % 2 ^ (count - 8 * i)).toUInt8

theorem bitAt_of_le (h : 8 * bytes.length ≤ i) : bitAt bytes i = false := by
  have hi : bytes.length ≤ i / 8 := by omega
  rw [bitAt, List.getD_eq_default _ _ hi]
  exact Nat.zero_testBit _

theorem ext_bitAt (hl : bytes.length = bytes'.length)
    (h : ∀ i, bitAt bytes i = bitAt bytes' i) : bytes = bytes' := by
  refine List.ext_getElem hl fun k hk hk' => UInt8.toNat_inj.mp (Nat.eq_of_testBit_eq fun j => ?_)
  by_cases hj : j < 8
  · have hd : (8 * k + j) / 8 = k := by omega
    have hm : (8 * k + j) % 8 = j := by omega
    simpa [bitAt, hd, hm, hk, hk'] using h (8 * k + j)
  · have hb : ∀ b : UInt8, b.toNat.testBit j = false := fun b =>
      Nat.testBit_lt_two_pow (b.toNat_lt.trans_le (Nat.pow_le_pow_right (by decide) (by omega)))
    rw [hb, hb]

theorem getD_take {α : Type} (l : List α) (n i : Nat) (d : α) :
    (l.take n).getD i d = if i < n then l.getD i d else d := by
  rw [List.getD_eq_getElem?_getD, List.getElem?_take, List.getD_eq_getElem?_getD]
  split <;> rfl

theorem bitAt_take (bytes : List UInt8) (n i : Nat) :
    bitAt (bytes.take n) i = (decide (i < 8 * n) && bitAt bytes i) := by
  have hi : i / 8 < n ↔ i < 8 * n := by omega
  rw [bitAt, getD_take, bitAt]
  by_cases h : i < 8 * n
  · rw [if_pos (hi.mpr h), decide_eq_true h, Bool.true_and]
  · rw [if_neg (mt hi.mp h), decide_eq_false h, Bool.false_and]
    exact Nat.zero_testBit _

/-! ### Packing -/

theorem testBit_or_shiftLeft (b : UInt8) {k : Nat} (hk : k < 8) (j : Nat) :
    (b ||| 1 <<< k.toUInt8).toNat.testBit j = (b.toNat.testBit j || decide (k = j)) := by
  have hs : k.toUInt8.toNat % 8 = k := by
    rw [Nat.toUInt8_eq, UInt8.toNat_ofNat']
    omega
  have hp : 2 ^ k < 2 ^ 8 := Nat.pow_lt_pow_right (by decide) hk
  rw [UInt8.toNat_or, UInt8.toNat_shiftLeft, hs, UInt8.toNat_one, Nat.one_shiftLeft,
    Nat.mod_eq_of_lt hp, Nat.testBit_or, Nat.testBit_two_pow]

/-- A round of the packing sets its own bit and leaves all others as they are. -/
theorem bitAt_putBit {j : Nat} (hj : j < 8 * bytes.length) (i : Nat) (bit : Bool) :
    bitAt (putBit bytes i bit) j = (bitAt bytes j || (decide (i = j) && bit)) := by
  cases bit with
  | false => rw [Bool.and_false, Bool.or_false]; rfl
  | true =>
    have hj' : j / 8 < bytes.length := by omega
    have hp : (putBit bytes i true).getD (j / 8) 0 =
        if i / 8 = j / 8 then bytes[j / 8] ||| 1 <<< (i % 8).toUInt8 else bytes[j / 8] := by
      rw [putBit, if_pos rfl, List.getD_eq_getElem?_getD, List.getElem?_modify,
        List.getElem?_eq_getElem hj']
      rfl
    rw [Bool.and_true, bitAt, hp, bitAt, List.getD_eq_getElem _ _ hj']
    by_cases hd : i / 8 = j / 8
    · have hij : i % 8 = j % 8 ↔ i = j := by omega
      rw [if_pos hd, testBit_or_shiftLeft _ (Nat.mod_lt i (by decide)), decide_eq_decide.mpr hij]
    · rw [if_neg hd, decide_eq_false (by omega), Bool.or_false]

/-- Bits that have been set stay set, and each one of the list gets to its place. -/
theorem bitAt_putBits {j : Nat} (hj : j < 8 * bytes.length) (i : Nat) (bits : List Bool) :
    bitAt (putBits bytes i bits) j =
      (bitAt bytes j || (decide (i ≤ j) && bits.getD (j - i) false)) := by
  induction bits generalizing bytes i with
  | nil => rw [List.getD_nil, Bool.and_false, Bool.or_false]; rfl
  | cons bit bits ih =>
    have hj' : j < 8 * (putBit bytes i bit).length := by rwa [length_putBit]
    rw [putBits, ih hj', bitAt_putBit hj, Bool.or_assoc]
    congr 1
    -- What this round puts is behind, at or before the bit in question.
    rcases Nat.lt_trichotomy j i with hij | rfl | hij
    · rw [decide_eq_false (by omega), decide_eq_false (by omega), decide_eq_false (by omega)]
      rfl
    · simp
    · have hd : j - i = j - (i + 1) + 1 := by omega
      have hc : i + 1 ≤ j ↔ i ≤ j := by omega
      rw [decide_eq_false (by omega), Bool.false_and, Bool.false_or, decide_eq_decide.mpr hc, hd,
        List.getD_cons_succ]

theorem bitAt_replicate_zero (n i : Nat) : bitAt (List.replicate n 0) i = false := by
  have hz : (List.replicate n (0 : UInt8)).getD (i / 8) 0 = 0 := by
    rw [List.getD_eq_getElem?_getD, List.getElem?_replicate]
    split <;> rfl
  rw [bitAt, hz]
  exact Nat.zero_testBit _

theorem bitAt_packBits (bits : List Bool) (i : Nat) :
    bitAt (packBits bits) i = bits.getD i false := by
  by_cases hi : i < 8 * bytesFor bits.length
  · have hi' : i < 8 * (List.replicate (bytesFor bits.length) (0 : UInt8)).length := by
      rwa [List.length_replicate]
    rw [packBits, bitAt_putBits hi', bitAt_replicate_zero, Bool.false_or, Nat.sub_zero,
      decide_eq_true (Nat.zero_le i), Bool.true_and]
  · unfold bytesFor at hi
    rw [bitAt_of_le (by rw [length_packBits, bytesFor]; omega), List.getD_eq_default _ _ (by omega)]

theorem bitAt_packBits_take (bits : List Bool) (n i : Nat) :
    bitAt (packBits (bits.take (n * 8))) i = (decide (i < 8 * n) && bits.getD i false) := by
  rw [bitAt_packBits, getD_take, Nat.mul_comm n 8]
  by_cases h : i < 8 * n
  · rw [if_pos h, decide_eq_true h, Bool.true_and]
  · rw [if_neg h, decide_eq_false h, Bool.false_and]

/-- Bytes that have just the bits of a list are the list packed. -/
theorem packBits_eq (hl : bytes.length = bytesFor bits.length)
    (h : ∀ i, bitAt bytes i = bits.getD i false) : packBits bits = bytes :=
  ext_bitAt (by rw [length_packBits, hl]) fun i => by rw [bitAt_packBits, h]

/-! ### Clearing -/

@[simp] theorem length_keepBits : (keepBits count bytes).length = bytes.length := by
  simp [keepBits]

theorem bitAt_keepBits (count : Nat) (bytes : List UInt8) (i : Nat) :
    bitAt (keepBits count bytes) i = (decide (i < count) && bitAt bytes i) := by
  by_cases hi : i / 8 < bytes.length
  · have hb : ∀ n : Nat, (bytes[i / 8].toNat % n) % 256 = bytes[i / 8].toNat % n :=
      fun n => Nat.mod_eq_of_lt ((Nat.mod_le _ _).trans_lt bytes[i / 8].toNat_lt)
    have hd : i % 8 < count - 8 * (i / 8) ↔ i < count := by omega
    simp [bitAt, keepBits, hi, hb, Nat.testBit_mod_two_pow, hd]
  · rw [bitAt_of_le (by rw [length_keepBits]; omega), bitAt_of_le (by omega), Bool.and_false]

theorem keepBits_of_le (h : 8 * bytes.length ≤ count) : keepBits count bytes = bytes := by
  refine ext_bitAt length_keepBits fun i => ?_
  rw [bitAt_keepBits]
  by_cases hi : i < count
  · rw [decide_eq_true hi, Bool.true_and]
  · rw [bitAt_of_le (i := i) (by omega), Bool.and_false]

/-- Bits of a payload, filled up with unset ones, are packed into what is left of the payload. -/
theorem packBits_bitAt_append (hl : bytes.length = bytesFor count) {pad : Nat}
    (hp : count + pad = 8 * bytesFor count) :
    packBits ((List.range count).map (bitAt bytes) ++ List.replicate pad false) =
      keepBits count bytes := by
  apply packBits_eq
  · rw [length_keepBits, hl, List.length_append, List.length_map, List.length_range,
      List.length_replicate, hp, bytesFor, bytesFor]
    omega
  · intro i
    rw [bitAt_keepBits]
    by_cases hi : i < count
    · simp [hi, List.getElem?_append]
    · by_cases hi' : i < count + pad
      · have hr : i - count < pad := by omega
        simp [hi, List.getElem?_append, hr]
      · simp [hi, List.getElem?_append, show ¬ i - count < pad by omega]

/-! ### Packing what has been unpacked -/

theorem unpackBits_packBits (bits : List Bool) :
    unpackBits (packBits bits) bits.length = some bits := by
  have hl : (bits.length : Int) ≤ 8 * (packBits bits).length := by
    rw [length_packBits, bytesFor]
    omega
  rw [unpackBits_of_le hl, Int.toNat_natCast]
  refine congrArg some (List.ext_getElem (by simp) fun i _ hi => ?_)
  rw [List.getElem_map, List.getElem_range, bitAt_packBits, List.getD_eq_getElem _ _ hi]

theorem unpackBits_eq_none_iff (bytes : List UInt8) (count : Int) :
    unpackBits bytes count = none ↔ 8 * bytes.length < count := by
  constructor
  · intro hn
    by_contra hc
    rw [unpackBits_of_le (by omega)] at hn
    cases hn
  · intro h
    rw [unpackBits_eq, if_neg (by omega)]

theorem packBits_map_bitAt (h : count ≤ 8 * bytes.length) :
    packBits ((List.range count).map (bitAt bytes)) =
      keepBits count (bytes.take (bytesFor count)) := by
  apply packBits_eq
  · rw [length_keepBits, List.length_take, List.length_map, List.length_range, bytesFor]
    omega
  · intro i
    rw [bitAt_keepBits, bitAt_take]
    by_cases hi : i < count
    · have hb : i < 8 * bytesFor count := by
        unfold bytesFor
        omega
      simp [hi, hb]
    · simp [hi]

/-- Bits that have been packed are unpacked as they were. They take up the least number of bytes,
and what is left of the last one is zero. Just as many bits as there are can be unpacked from bytes,
and packing them again gives the bytes that they are in, with all bits behind them cleared. -/
theorem packBits_round_trip (bits : List Bool) (bytes : List UInt8) (count : Int) :
    unpackBits (packBits bits) bits.length = some bits ∧
    (packBits bits).length = (bits.length + 7) / 8 ∧
    (∀ i, bits.length ≤ i → bitAt (packBits bits) i = false) ∧
    (unpackBits bytes count = none ↔ 8 * bytes.length < count) ∧
    (count ≤ 0 → unpackBits bytes count = some []) ∧
    (0 ≤ count → count ≤ 8 * bytes.length → ∃ unpacked, unpackBits bytes count = some unpacked ∧
      packBits unpacked = keepBits count.toNat (bytes.take ((count.toNat + 7) / 8)) ∧
      (count = 8 * bytes.length → packBits unpacked = bytes)) := by
  refine ⟨unpackBits_packBits bits, length_packBits bits, fun i hi => ?_,
    unpackBits_eq_none_iff bytes count, fun h => ?_, fun h0 h => ?_⟩
  · rw [bitAt_packBits, List.getD_eq_default _ _ hi]
  · rw [unpackBits_of_le (by omega), Int.toNat_of_nonpos h]
    rfl
  · have hn : count.toNat ≤ 8 * bytes.length := by omega
    have hp := packBits_map_bitAt hn
    refine ⟨_, unpackBits_of_le h, hp, fun he => ?_⟩
    have hl : bytesFor count.toNat = bytes.length := by
      unfold bytesFor
      omega
    rw [hp, hl, List.take_length, keepBits_of_le (by omega)]

theorem packBits_round_trip_ten :
    (∃ bits, unpackBits [0xCD, 0xFF] 10 = some bits ∧ packBits bits = [0xCD, 0x03]) ∧
    (∃ bits, unpackBits [0xCD, 0xFF] 16 = some bits ∧ packBits bits = [0xCD, 0xFF]) ∧
    unpackBits [0xCD, 0xFF] (-1) = some [] := by
  obtain ⟨-, -, -, -, -, h₁⟩ := packBits_round_trip [] [0xCD, 0xFF] 10
  obtain ⟨-, -, -, -, -, h₂⟩ := packBits_round_trip [] [0xCD, 0xFF] 16
  obtain ⟨-, -, -, -, h₃, -⟩ := packBits_round_trip [] [0xCD, 0xFF] (-1)
  obtain ⟨ten, hu, hp, -⟩ := h₁ (by decide) (by decide)
  obtain ⟨all, hu', -, hp'⟩ := h₂ (by decide) (by decide)
  exact ⟨⟨ten, hu, hp.trans (by decide)⟩, ⟨all, hu', hp' (by decide)⟩, h₃ (by decide)⟩

end ModbusRpc
