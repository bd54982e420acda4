import Mathlib.Data.List.Basic
import ModbusRpc.Payload.Words

/-! # The words of a payload

Packing words gives two bytes for each, and a payload of packed words holds just these words. The
slices of a payload are its words one after the other, at whatever length it has. All values in a
payload are words, and a payload that is not empty has some.
-/

namespace ModbusRpc

variable {bytes : List UInt8} {ws : List Int} {w : Int} {count : Int}

theorem eq_nil_or_singleton (h : ∀ high low rest, bytes = high :: low :: rest → False) :
    bytes = [] ∨ ∃ b, bytes = [b] := by
  match bytes, h with
  | [], _ => exact .inl rfl
  | [b], _ => exact .inr ⟨b, rfl⟩
  | high :: low :: rest, h => exact (h high low rest rfl).elim

theorem length_words (payload : List UInt8) : (words payload).length = payload.length / 2 := by
  fun_induction words payload with
  | case1 high low rest ih =>
    simp only [List.length_cons, ih]
    omega
  | case2 bytes h => obtain rfl | ⟨b, rfl⟩ := eq_nil_or_singleton h <;> simp

theorem getElem_words {payload : List UInt8} {i : Nat} (h : i < (words payload).length) :
    (words payload)[i] = word (payload.getD (2 * i) 0) (payload.getD (2 * i + 1) 0) := by
  induction i generalizing payload with
  | zero =>
    match payload, h with
    | high :: low :: rest, _ => rfl
    | [], h | [_], h => simp [words] at h
  | succ i ih =>
    match payload, h with
    | high :: low :: rest, h => exact ih (Nat.lt_of_succ_lt_succ h)
    | [], h | [_], h => simp [words] at h

theorem isWord_word (high low : UInt8) : IsWord (word high low) := by
  have hh := high.toNat_lt
  have hl := low.toNat_lt
  unfold IsWord word
  omega

theorem word_wordBytes (h : IsWord w) :
    word (w / 256).toNat.toUInt8 (w % 256).toNat.toUInt8 = w := by
  obtain ⟨h₁, h₂⟩ := h
  have hb : ∀ n : Int, 0 ≤ n → n < 256 → (n.toNat.toUInt8.toNat : Int) = n := by
    intro n h₁ h₂
    rw [Nat.toUInt8_eq, UInt8.toNat_ofNat', Nat.mod_eq_of_lt (by omega), Int.toNat_of_nonneg h₁]
  rw [word, hb _ (by omega) (by omega), hb _ (by omega) (by omega)]
  omega

/-! ### Packing -/

theorem packWords_of_isWord (h : ∀ w ∈ ws, IsWord w) :
    packWords ws = .ok (ws.flatMap wordBytes) := by
  induction ws with
  | nil => rfl
  | cons w ws ih =>
    obtain ⟨hw, h⟩ := List.forall_mem_cons.mp h
    rw [packWords_cons_of_isWord hw, ih h]
    rfl

theorem packExactly_of_isWord (hl : (ws.length : Int) = count) (h : ∀ w ∈ ws, IsWord w) :
    packExactly count ws = .ok (ws.flatMap wordBytes) := by
  rw [packExactly, if_pos hl, packWords_of_isWord h]
  rfl

theorem length_flatMap_wordBytes (ws : List Int) :
    (ws.flatMap wordBytes).length = 2 * ws.length := by
  induction ws with
  | nil => rfl
  | cons w ws ih =>
    rw [List.flatMap_cons, List.length_append, ih, List.length_cons, wordBytes]
    simp only [List.length_cons, List.length_nil]
    omega

theorem words_flatMap_wordBytes (h : ∀ w ∈ ws, IsWord w) : words (ws.flatMap wordBytes) = ws := by
  induction ws with
  | nil => rfl
  | cons w ws ih =>
    obtain ⟨hw, h⟩ := List.forall_mem_cons.mp h
    calc words ((w :: ws).flatMap wordBytes)
        = word (w / 256).toNat.toUInt8 (w % 256).toNat.toUInt8 ::
            words (ws.flatMap wordBytes) := rfl
      _ = w :: ws := by rw [word_wordBytes hw, ih h]

theorem wordBytes_word (high low : UInt8) : wordBytes (word high low) = [high, low] := by
  have hl := low.toNat_lt
  have hd : (word high low / 256).toNat = high.toNat := by
    unfold word
    omega
  have hm : (word high low % 256).toNat = low.toNat := by
    unfold word
    omega
  rw [wordBytes, hd, hm, Nat.toUInt8_eq, Nat.toUInt8_eq, UInt8.ofNat_toNat, UInt8.ofNat_toNat]

theorem flatMap_wordBytes_words (h : bytes.length % 2 = 0) :
    (words bytes).flatMap wordBytes = bytes := by
  fun_induction words bytes with
  | case1 high low rest ih =>
    have hr : rest.length % 2 = 0 := by
      simp only [List.length_cons] at h
      omega
    rw [List.flatMap_cons, wordBytes_word, ih hr]
    rfl
  | case2 bytes hc =>
    obtain rfl | ⟨b, rfl⟩ := eq_nil_or_singleton hc
    · rfl
    · simp at h

/-! ### The values in a payload -/

/-- Two bytes more in front of a payload make one more place, and move the others on by two. -/
theorem filter_range_succ (n : Nat) : (List.range (n + 1)).filter (· % 2 = 0) =
    0 :: ((List.range (n - 1)).filter (· % 2 = 0)).map (· + 2) := by
  cases n with
  | zero => rfl
  | succ n =>
    have hr : List.range (n + 1 + 1) = 0 :: 1 :: (List.range n).map (· + 2) := by
      rw [List.range_succ_eq_map, List.range_succ_eq_map, List.map_cons, List.map_map]
      rfl
    simp [hr, List.filter_map, Function.comp_def]

theorem bigEndian_pair (high low : UInt8) : bigEndian [high, low] = word high low := by
  unfold bigEndian word
  simp

theorem slicedWords_cons_cons (high low : UInt8) (rest : List UInt8) :
    slicedWords (high :: low :: rest) = word high low :: slicedWords rest := by
  unfold slicedWords
  rw [List.length_cons, List.length_cons, Nat.add_sub_cancel, filter_range_succ, List.map_cons,
    List.map_map, ← bigEndian_pair]
  rfl

theorem slicedWords_eq (bytes : List UInt8) : slicedWords bytes = words bytes := by
  fun_induction words bytes with
  | case1 high low rest ih => rw [slicedWords_cons_cons, ih]
  | case2 bytes h => obtain rfl | ⟨b, rfl⟩ := eq_nil_or_singleton h <;> rfl

theorem payloadValues_of_odd (h : bytes.length % 2 = 1) :
    payloadValues bytes = bytes.map fun b => (b.toNat : Int) := if_pos h

theorem payloadValues_of_even (h : bytes.length % 2 = 0) : payloadValues bytes = words bytes := by
  rw [payloadValues, if_neg (by omega), slicedWords_eq]

theorem payloadValues_flatMap_wordBytes (h : ∀ w ∈ ws, IsWord w) :
    payloadValues (ws.flatMap wordBytes) = ws := by
  rw [payloadValues_of_even (by rw [length_flatMap_wordBytes]; omega), words_flatMap_wordBytes h]

theorem byte_of_mem_payloadValues (h : bytes.length % 2 = 1) (hw : w ∈ payloadValues bytes) :
    0 ≤ w ∧ w ≤ 0xFF := by
  rw [payloadValues_of_odd h] at hw
  obtain ⟨b, -, rfl⟩ := List.mem_map.mp hw
  have hb := b.toNat_lt
  omega

theorem isWord_of_mem_payloadValues (hw : w ∈ payloadValues bytes) : IsWord w := by
  rcases Nat.mod_two_eq_zero_or_one bytes.length with h | h
  · rw [payloadValues_of_even h] at hw
    obtain ⟨i, hi, rfl⟩ := List.getElem_of_mem hw
    rw [getElem_words]
    exact isWord_word _ _
  · have hb := byte_of_mem_payloadValues h hw
    exact ⟨hb.1, Int.le_trans hb.2 (by decide)⟩

theorem payloadValues_ne_nil (h : bytes ≠ []) : payloadValues bytes ≠ [] := by
  have hl := List.length_pos_iff.mpr h
  apply List.length_pos_iff.mp
  rcases Nat.mod_two_eq_zero_or_one bytes.length with h | h
  · rw [payloadValues_of_even h, length_words]
    omega
  · rwa [payloadValues_of_odd h, List.length_map]

end ModbusRpc
