import Mathlib.Data.List.Basic
import ModbusRpc.Payload.Base64

/-! # Every payload in base64

Three bytes are four sextets, and each sextet has a character. The text of these characters, padded
to whole groups, is decoded to the bytes again.
-/

namespace ModbusRpc.Base64

variable {ns done : List Nat} {bytes : List UInt8} {n : Nat}

def digit (n : Nat) : Char :=
  "ABCDEFGHIJKLMNOPQRSTUVWXYZabcdefghijklmnopqrstuvwxyz0123456789+/".toList.getD n '='

def sextets : List UInt8 → List Nat
  | a :: b :: c :: rest =>
    a.toNat / 4 :: (a.toNat % 4 * 16 + b.toNat / 16) :: (b.toNat % 16 * 4 + c.toNat / 64) ::
      c.toNat % 64 :: sextets rest
  | [a, b] => [a.toNat / 4, a.toNat % 4 * 16 + b.toNat / 16, b.toNat % 16 * 4]
  | [a] => [a.toNat / 4, a.toNat % 4 * 16]
  | [] => []

def encodeLine (bytes : List UInt8) : List Char :=
  (sextets bytes).map digit ++ List.replicate ((3 - bytes.length % 3) % 3) '='

def encode (bytes : List UInt8) : Text := (encodeLine bytes).map .scalar

theorem sextet?_digit : ∀ n < 64, sextet? (digit n) = some n := by decide +kernel

theorem digit_ne_pad : ∀ n < 64, digit n ≠ '=' := by decide +kernel

theorem digit_ascii : ∀ n < 64, (digit n).toNat < 0x80 ∧ digit n ≠ '\r' ∧ digit n ≠ '\n' := by
  decide +kernel

/-! ### Sextets -/

theorem toUInt8_eq {b : UInt8} (h : n % 256 = b.toNat) : n.toUInt8 = b :=
  UInt8.toNat_inj.mp (by rw [Nat.toUInt8_eq, UInt8.toNat_ofNat', h])

theorem bytesOfSextets_sextets (bytes : List UInt8) : bytesOfSextets (sextets bytes) = bytes := by
  fun_induction sextets bytes with
  | case1 a b c rest ih =>
    have ha := a.toNat_lt
    have hb := b.toNat_lt
    have hc := c.toNat_lt
    rw [bytesOfSextets, ih, toUInt8_eq (b := a) (by omega), toUInt8_eq (b := b) (by omega),
      toUInt8_eq (b := c) (by omega)]
  | case2 a b =>
    have ha := a.toNat_lt
    have hb := b.toNat_lt
    rw [bytesOfSextets, toUInt8_eq (b := a) (by omega), toUInt8_eq (b := b) (by omega)]
  | case3 a =>
    have ha := a.toNat_lt
    rw [bytesOfSextets, toUInt8_eq (b := a) (by omega)]
  | case4 => rfl

theorem length_sextets (bytes : List UInt8) :
    (sextets bytes).length = (4 * bytes.length + 2) / 3 := by
  fun_induction sextets bytes with
  | case1 a b c rest ih =>
    simp only [List.length_cons, ih]
    omega
  | case2 | case3 | case4 => simp

theorem length_sextets_add_pads (bytes : List UInt8) :
    ((sextets bytes).length + (3 - bytes.length % 3) % 3) % 4 = 0 := by
  have hm : bytes.length % 3 = 0 ∨ bytes.length % 3 = 1 ∨ bytes.length % 3 = 2 := by omega
  rw [length_sextets]
  rcases hm with hm | hm | hm <;> rw [hm] <;> omega

theorem lt_of_mem_sextets (h : n ∈ sextets bytes) : n < 64 := by
  fun_induction sextets bytes with
  | case1 a b c rest ih =>
    have ha := a.toNat_lt
    have hb := b.toNat_lt
    have hc := c.toNat_lt
    simp only [List.mem_cons] at h
    rcases h with rfl | rfl | rfl | rfl | h
    · omega
    · omega
    · omega
    · omega
    · exact ih h
  | case2 a b =>
    have ha := a.toNat_lt
    have hb := b.toNat_lt
    simp only [List.mem_cons, List.not_mem_nil, or_false] at h
    omega
  | case3 a =>
    have ha := a.toNat_lt
    simp only [List.mem_cons, List.not_mem_nil, or_false] at h
    omega
  | case4 => cases h

/-! ### Decoding -/

theorem scan_map_digit (h : ∀ n ∈ ns, n < 64) (done : List Nat) (rest : List Char) :
    scan done 0 false (ns.map digit ++ rest) = scan (ns.reverse ++ done) 0 false rest := by
  induction ns generalizing done with
  | nil => rfl
  | cons n ns ih =>
    obtain ⟨hn, h⟩ := List.forall_mem_cons.mp h
    rw [List.map_cons, List.cons_append, scan, if_neg (digit_ne_pad n hn), sextet?_digit n hn]
    simp [ih h]

theorem scan_replicate {pads : Nat} (h : (done.length + pads) % 4 = 0) (hp : pads ≤ 2) :
    scan done 0 false (List.replicate pads '=') = .ok done.reverse := by
  match pads, hp with
  | 0, _ => simp [scan, show done.length % 4 = 0 by omega]
  | 1, _ => simp [scan, show done.length % 4 = 3 by omega]
  | 2, _ => simp [scan, show done.length % 4 = 2 by omega, List.replicate]

theorem decodeLine_encodeLine (bytes : List UInt8) : decodeLine (encodeLine bytes) = .ok bytes := by
  have hs : ∀ n ∈ sextets bytes, n < 64 := fun n hn => lt_of_mem_sextets hn
  have hh : (encodeLine bytes).head? ≠ some '=' := by
    unfold encodeLine
    cases hn : sextets bytes with
    | nil =>
      have hl := length_sextets bytes
      rw [hn, List.length_nil] at hl
      rw [show bytes.length = 0 by omega]
      simp
    | cons n ns =>
      have hd := digit_ne_pad n (hs n (by simp [hn]))
      simpa using hd
  rw [decodeLine, if_neg hh, encodeLine, scan_map_digit hs, scan_replicate]
  · simp [Except.map, bytesOfSextets_sextets]
  · rw [List.append_nil, List.length_reverse, length_sextets_add_pads]
  · omega

theorem mem_encodeLine {c : Char} (h : c ∈ encodeLine bytes) :
    c.toNat < 0x80 ∧ c ≠ '\r' ∧ c ≠ '\n' := by
  rcases List.mem_append.mp h with h | h
  · obtain ⟨n, hn, rfl⟩ := List.mem_map.mp h
    exact digit_ascii n (lt_of_mem_sextets hn)
  · obtain rfl := List.eq_of_mem_replicate h
    decide

theorem decode_encode (bytes : List UInt8) : decode (encode bytes) = .ok bytes := by
  have hf : (encode bytes).filter (fun p => !isLineBreak p) = encode bytes := by
    refine List.filter_eq_self.mpr fun p hp => ?_
    obtain ⟨c, hc, rfl⟩ := List.mem_map.mp hp
    simp [isLineBreak, mem_encodeLine hc]
  have ha : (encodeLine bytes).all (fun c => c.toNat < 0x80) = true :=
    List.all_eq_true.mpr fun c hc => decide_eq_true (mem_encodeLine hc).1
  simp only [decode, hf]
  rw [encode, Text.chars?_map_scalar]
  simp only [ha, if_true, decodeLine_encodeLine]

end ModbusRpc.Base64
