import Mathlib.Data.Nat.Bitwise
import ModbusRpc.Proofs.Payload.Base64
import ModbusRpc.Proofs.Success

/-! # The texts that are base64

A text is accepted if, without its line breaks, it is the characters of a row of sextets and padding
that completes their last group. Complete groups may have any padding behind them. The bits of the
sextets, as far as they fill bytes, are the bits of the payload.
-/

namespace ModbusRpc.Base64

variable {ns ns' done out : List Nat} {cs : List Char} {t : Text} {bytes bytes' : List UInt8}
  {n : Nat}

/-- The padding that may follow a number of data characters. -/
inductive Completes : (count pads : Nat) → Prop where
  | empty : Completes 0 0
  | whole (k pads : Nat) : Completes (4 * (k + 1)) pads
  | two (k : Nat) : Completes (4 * k + 2) 2
  | three (k : Nat) : Completes (4 * k + 3) 1

/-- A text that stands for a row of sextets. -/
structure Spells (t : Text) (ns : List Nat) : Prop where
  sextets : ∀ n ∈ ns, n < 64
  line : ∃ pads, Completes ns.length pads ∧
    t.filter (fun p => p ≠ .scalar '\r' ∧ p ≠ .scalar '\n') =
      (ns.map digit ++ List.replicate pads '=').map .scalar

/-- The bits of a number of some width, the most significant first. -/
def highFirst (width n : Nat) : List Bool :=
  (List.range width).map fun i => n.testBit (width - 1 - i)

def sextetBits (ns : List Nat) : List Bool := ns.flatMap (highFirst 6)

def byteBits (bytes : List UInt8) : List Bool := bytes.flatMap fun b => highFirst 8 b.toNat

/-- A text that stands for bytes: all those that the bits of its sextets fill. -/
def Means (t : Text) (bytes : List UInt8) : Prop :=
  ∃ ns, Spells t ns ∧ bytes.length = 6 * ns.length / 8 ∧
    byteBits bytes = (sextetBits ns).take (8 * bytes.length)

/-! ### Bits -/

@[simp] theorem length_highFirst (width n : Nat) : (highFirst width n).length = width := by
  simp [highFirst]

theorem highFirst_add (w v n : Nat) :
    highFirst (w + v) n = highFirst w (n / 2 ^ v) ++ highFirst v (n % 2 ^ v) := by
  refine List.ext_getElem (by simp) fun i hi _ => ?_
  rw [length_highFirst] at hi
  simp only [List.getElem_append, highFirst, List.getElem_map, List.getElem_range, List.length_map,
    List.length_range, Nat.testBit_div_two_pow, Nat.testBit_mod_two_pow]
  split
  · congr 1
    omega
  · rw [decide_eq_true (by omega), Bool.true_and]
    congr 1
    omega

theorem highFirst_inj {width m n : Nat} (hm : m < 2 ^ width) (hn : n < 2 ^ width)
    (h : highFirst width m = highFirst width n) : m = n := by
  refine Nat.eq_of_testBit_eq fun i => ?_
  by_cases hi : i < width
  · have hb := congrArg (·[width - 1 - i]?) h
    have hi' : width - 1 - (width - 1 - i) = i := by omega
    simpa [highFirst, show width - 1 - i < width by omega, hi'] using hb
  · have hw : 2 ^ width ≤ 2 ^ i := Nat.pow_le_pow_right (by decide) (by omega)
    rw [Nat.testBit_lt_two_pow (Nat.lt_of_lt_of_le hm hw),
      Nat.testBit_lt_two_pow (Nat.lt_of_lt_of_le hn hw)]

theorem length_byteBits (bytes : List UInt8) : (byteBits bytes).length = 8 * bytes.length := by
  simp [byteBits, Nat.mul_comm]

theorem byteBits_inj (h : byteBits bytes = byteBits bytes') : bytes = bytes' := by
  have hl : bytes.length = bytes'.length := by
    have hl := congrArg List.length h
    rw [length_byteBits, length_byteBits] at hl
    omega
  induction bytes generalizing bytes' with
  | nil => exact (List.length_eq_zero_iff.mp hl.symm).symm
  | cons b bytes ih =>
    cases bytes' with
    | nil => cases hl
    | cons b' bytes' =>
      obtain ⟨hb, h⟩ := List.append_inj h (by simp)
      rw [UInt8.toNat_inj.mp (highFirst_inj b.toNat_lt b'.toNat_lt hb),
        ih h (Nat.succ.inj hl)]

theorem toNat_toUInt8 (n : Nat) : n.toUInt8.toNat = n % 256 := by
  rw [Nat.toUInt8_eq, UInt8.toNat_ofNat']

theorem highFirst_two_four (n : Nat) :
    highFirst 6 n = highFirst 2 (n / 16) ++ highFirst 4 (n % 16) := highFirst_add 2 4 n

theorem highFirst_four_two (n : Nat) :
    highFirst 6 n = highFirst 4 (n / 4) ++ highFirst 2 (n % 4) := highFirst_add 4 2 n

/-! Each byte takes what is left of one sextet and the beginning of the next one. -/

section Group

variable {a b c d : Nat}

theorem sextetBits_first (ha : a < 64) (hb : b < 64) (rest : List Nat) :
    sextetBits (a :: b :: rest) =
      byteBits [(a * 4 + b / 16).toUInt8] ++ (highFirst 4 (b % 16) ++ sextetBits rest) := by
  have hx : highFirst 8 (a * 4 + b / 16).toUInt8.toNat = highFirst 6 a ++ highFirst 2 (b / 16) := by
    rw [highFirst_add 6 2, toNat_toUInt8]
    congr 2 <;> omega
  simp only [sextetBits, byteBits, List.flatMap_cons, List.flatMap_nil, List.append_nil, hx,
    highFirst_two_four b, List.append_assoc]

theorem sextetBits_second (hc : c < 64) (rest : List Nat) :
    highFirst 4 (b % 16) ++ sextetBits (c :: rest) =
      byteBits [(b * 16 + c / 4).toUInt8] ++ (highFirst 2 (c % 4) ++ sextetBits rest) := by
  have hx : highFirst 8 (b * 16 + c / 4).toUInt8.toNat =
      highFirst 4 (b % 16) ++ highFirst 4 (c / 4) := by
    rw [highFirst_add 4 4, toNat_toUInt8]
    congr 2 <;> omega
  simp only [sextetBits, byteBits, List.flatMap_cons, List.flatMap_nil, List.append_nil, hx,
    highFirst_four_two c, List.append_assoc]

theorem sextetBits_third (hd : d < 64) (rest : List Nat) :
    highFirst 2 (c % 4) ++ sextetBits (d :: rest) =
      byteBits [(c * 64 + d).toUInt8] ++ sextetBits rest := by
  have hx : highFirst 8 (c * 64 + d).toUInt8.toNat = highFirst 2 (c % 4) ++ highFirst 6 d := by
    rw [highFirst_add 2 6, toNat_toUInt8]
    congr 2 <;> omega
  simp only [sextetBits, byteBits, List.flatMap_cons, List.flatMap_nil, List.append_nil, hx,
    List.append_assoc]

end Group

theorem length_bytesOfSextets (ns : List Nat) :
    (bytesOfSextets ns).length = 6 * ns.length / 8 := by
  fun_induction bytesOfSextets ns with
  | case1 a b c d rest ih =>
    simp only [List.length_cons, ih]
    omega
  | case2 | case3 => simp
  | case4 ns h₁ h₂ h₃ =>
    match ns with
    | [] | [_] => simp
    | [a, b] => exact absurd rfl (h₃ a b)
    | [a, b, c] => exact absurd rfl (h₂ a b c)
    | a :: b :: c :: d :: rest => exact absurd rfl (h₁ a b c d rest)

/-- A byte in front of those that a row of bits fills is filled by its own bits. -/
theorem byteBits_cons_eq_take (b : UInt8) {bits : List Bool}
    (h : byteBits bytes = bits.take (8 * bytes.length)) :
    byteBits (b :: bytes) = (byteBits [b] ++ bits).take (8 * (b :: bytes).length) := by
  calc byteBits (b :: bytes)
      = byteBits [b] ++ byteBits bytes := by simp [byteBits]
    _ = byteBits [b] ++ bits.take (8 * bytes.length) := by rw [h]
    _ = (byteBits [b] ++ bits).take (8 * (b :: bytes).length) := by
      rw [List.length_cons, Nat.mul_succ, Nat.add_comm, ← List.take_length_add_append]
      rfl

theorem byteBits_bytesOfSextets (h : ∀ n ∈ ns, n < 64) :
    byteBits (bytesOfSextets ns) = (sextetBits ns).take (8 * (bytesOfSextets ns).length) := by
  fun_induction bytesOfSextets ns with
  | case1 a b c d rest ih =>
    simp only [List.forall_mem_cons] at h
    obtain ⟨ha, hb, hc, hd, h⟩ := h
    rw [sextetBits_first ha hb, sextetBits_second hc, sextetBits_third hd]
    apply byteBits_cons_eq_take
    apply byteBits_cons_eq_take
    exact byteBits_cons_eq_take _ (ih h)
  | case2 a b c =>
    simp only [List.forall_mem_cons] at h
    obtain ⟨ha, hb, hc, -⟩ := h
    rw [sextetBits_first ha hb, sextetBits_second hc]
    apply byteBits_cons_eq_take
    exact byteBits_cons_eq_take _ rfl
  | case3 a b =>
    simp only [List.forall_mem_cons] at h
    obtain ⟨ha, hb, -⟩ := h
    rw [sextetBits_first ha hb]
    exact byteBits_cons_eq_take _ rfl
  | case4 => rfl

/-! ### Scanning -/

theorem lt_of_le_char {c d : Char} (hd : d.toNat < 128) (h : c ≤ d) : c.toNat < 128 :=
  Nat.lt_of_le_of_lt (UInt32.le_iff_toNat_le.mp h) hd

theorem lt_of_sextet? {c : Char} (h : sextet? c = some n) : c.toNat < 128 := by
  unfold sextet? at h
  split at h
  case isTrue hc => exact lt_of_le_char (by decide) hc.2
  split at h
  case isTrue hc => exact lt_of_le_char (by decide) hc.2
  split at h
  case isTrue hc => exact lt_of_le_char (by decide) hc.2
  split at h
  case isTrue hc => exact hc ▸ by decide
  split at h
  case isTrue hc => exact hc ▸ by decide
  cases h

theorem eq_digit_of_sextet? {c : Char} (h : sextet? c = some n) : n < 64 ∧ digit n = c := by
  have ht : ∀ m < 128, ∀ n ∈ sextet? (Char.ofNat m), n < 64 ∧ digit n = Char.ofNat m := by
    decide +kernel
  have hc := ht c.toNat (lt_of_sextet? h)
  rw [Char.ofNat_toNat] at hc
  exact hc n h

theorem scan_whole (h : done.length % 4 = 0) (pads k : Nat) (padding : Bool) :
    scan done pads padding (List.replicate k '=') = .ok done.reverse := by
  induction k generalizing padding with
  | zero => simp [scan, h]
  | succ k ih =>
    rw [List.replicate_succ, scan, if_pos rfl, if_neg (by omega)]
    exact ih true

/-- After some padding there is no more than what completes the last group. -/
theorem scan_padding_sound {pads : Nat} (hp : done.length % 4 < 2 ∨ done.length % 4 + pads < 4)
    (h : scan done pads true cs = .ok out) : out = done.reverse ∧ ∃ k, cs = List.replicate k '=' ∧
      (done.length % 4 = 0 ∨ 2 ≤ done.length % 4 ∧ done.length % 4 + pads + k = 4) := by
  induction cs generalizing pads with
  | nil =>
    rw [scan] at h
    split at h
    case h_1 hd =>
      cases h
      exact ⟨rfl, 0, rfl, .inl hd⟩
    all_goals cases h
  | cons c rest ih =>
    by_cases hc : c = '='
    · subst hc
      rw [scan, if_pos rfl] at h
      by_cases hd : 2 ≤ done.length % 4
      · rw [if_pos hd] at h
        by_cases h4 : 4 ≤ done.length % 4 + (pads + 1)
        · obtain ⟨hr, ho⟩ := ite_eq_ok_iff.mp ((if_pos h4).symm.trans h)
          rw [List.isEmpty_iff.mp hr]
          exact ⟨(Except.ok.inj ho).symm, 1, rfl, by omega⟩
        · rw [if_neg h4] at h
          obtain ⟨ho, k, hk, hq⟩ := ih (.inr (by omega)) h
          exact ⟨ho, k + 1, by rw [hk, List.replicate_succ], by omega⟩
      · rw [if_neg hd] at h
        obtain ⟨ho, k, hk, hq⟩ := ih hp h
        exact ⟨ho, k + 1, by rw [hk, List.replicate_succ], by omega⟩
    · rw [scan, if_neg hc] at h
      split at h <;> cases h

/-- A scan that succeeds has read the characters of some sextets, and padding that completes them
together with those found before. -/
theorem scan_sound (h : scan done 0 false cs = .ok out) : ∃ ns k, (∀ n ∈ ns, n < 64) ∧
    cs = ns.map digit ++ List.replicate k '=' ∧ out = done.reverse ++ ns ∧
      (out.length % 4 = 0 ∨ 2 ≤ out.length % 4 ∧ out.length % 4 + k = 4) := by
  induction cs generalizing done with
  | nil =>
    have hp : scan done 0 true [] = .ok out := h
    obtain ⟨rfl, k, hk, hq⟩ := scan_padding_sound (by omega) hp
    exact ⟨[], k, nofun, hk, by simp, by simpa using hq⟩
  | cons c rest ih =>
    by_cases hc : c = '='
    · -- The first padding character is read as any other one.
      have hp : scan done 0 true (c :: rest) = .ok out := by
        rw [hc, scan, if_pos rfl] at h ⊢
        exact h
      obtain ⟨rfl, k, hk, hq⟩ := scan_padding_sound (by omega) hp
      exact ⟨[], k, nofun, hk, by simp, by simpa using hq⟩
    · rw [scan, if_neg hc] at h
      cases hs : sextet? c with
      | none =>
        rw [hs] at h
        cases h
      | some n =>
        obtain ⟨hn, rfl⟩ := eq_digit_of_sextet? hs
        simp only [hs] at h
        obtain ⟨ns, k, hns, rfl, rfl, hq⟩ := ih h
        exact ⟨n :: ns, k, List.forall_mem_cons.mpr ⟨hn, hns⟩, rfl, by simp, hq⟩

/-! ### Texts -/

theorem completes_iff {count pads : Nat} : Completes count pads ↔
    count % 4 = 0 ∧ (count = 0 → pads = 0) ∨ 2 ≤ count % 4 ∧ count % 4 + pads = 4 := by
  constructor
  · rintro (_ | _ | _ | _) <;> omega
  · rintro (⟨hc, h0⟩ | ⟨hc, hp⟩)
    · by_cases hz : count = 0
      · rw [hz, h0 hz]
        exact .empty
      · obtain ⟨k, rfl⟩ : ∃ k, count = 4 * (k + 1) := ⟨count / 4 - 1, by omega⟩
        exact .whole k pads
    · by_cases h2 : count % 4 = 2
      · obtain ⟨k, rfl⟩ : ∃ k, count = 4 * k + 2 := ⟨count / 4, by omega⟩
        obtain rfl : pads = 2 := by omega
        exact .two k
      · obtain ⟨k, rfl⟩ : ∃ k, count = 4 * k + 3 := ⟨count / 4, by omega⟩
        obtain rfl : pads = 1 := by omega
        exact .three k

theorem scan_of_completes {pads : Nat} (h : Completes done.length pads) :
    scan done 0 false (List.replicate pads '=') = .ok done.reverse := by
  rcases completes_iff.mp h with ⟨hc, -⟩ | ⟨hc, hp⟩
  · exact scan_whole hc 0 pads false
  · exact scan_replicate (by omega) (by omega)

theorem head?_line {pads : Nat} (hs : ∀ n ∈ ns, n < 64) (hp : ns = [] → pads = 0) :
    (ns.map digit ++ List.replicate pads '=').head? ≠ some '=' := by
  cases ns with
  | nil =>
    rw [hp rfl]
    nofun
  | cons n ns => simpa using digit_ne_pad n (hs n List.mem_cons_self)

theorem decodeLine_eq_ok_iff : decodeLine cs = .ok bytes ↔ ∃ ns pads, (∀ n ∈ ns, n < 64) ∧
    Completes ns.length pads ∧ cs = ns.map digit ++ List.replicate pads '=' ∧
    bytes = bytesOfSextets ns := by
  constructor
  · intro h
    unfold decodeLine at h
    split at h
    case isTrue => cases h
    case isFalse hh =>
      cases hscan : scan [] 0 false cs with
      | error fault =>
        rw [hscan] at h
        cases h
      | ok out =>
        rw [hscan] at h
        cases h
        obtain ⟨ns, pads, hs, rfl, ho, hq⟩ := scan_sound hscan
        obtain rfl : out = ns := ho
        refine ⟨out, pads, hs, completes_iff.mpr ?_, rfl, rfl⟩
        refine hq.imp_left fun hq => ⟨hq, fun h0 => ?_⟩
        -- Padding in front of everything has been refused before.
        obtain rfl := List.length_eq_zero_iff.mp h0
        cases pads with
        | zero => rfl
        | succ pads => exact absurd rfl hh
  · rintro ⟨ns, pads, hs, hc, rfl, rfl⟩
    have hp : ns = [] → pads = 0 := by
      rintro rfl
      cases hc
      rfl
    have hscan : scan [] 0 false (ns.map digit ++ List.replicate pads '=') = .ok ns := by
      rw [scan_map_digit hs, scan_of_completes (by simpa using hc)]
      simp
    rw [decodeLine, if_neg (head?_line hs hp), hscan]
    rfl

theorem ascii_line {pads : Nat} (hs : ∀ n ∈ ns, n < 64) :
    (ns.map digit ++ List.replicate pads '=').all (fun c => c.toNat < 0x80) = true := by
  refine List.all_eq_true.mpr fun c hc => decide_eq_true ?_
  rcases List.mem_append.mp hc with hc | hc
  · obtain ⟨n, hn, rfl⟩ := List.mem_map.mp hc
    exact (digit_ascii n (hs n hn)).1
  · rw [List.eq_of_mem_replicate hc]
    decide

theorem not_isLineBreak (p : CodePoint) :
    (!isLineBreak p) = decide (p ≠ .scalar '\r' ∧ p ≠ .scalar '\n') := by
  simp [isLineBreak]

theorem decode_eq_ok_iff :
    decode t = .ok bytes ↔ ∃ ns, Spells t ns ∧ bytes = bytesOfSextets ns := by
  simp only [decode, not_isLineBreak]
  constructor
  · intro h
    cases hc : Text.chars? (t.filter fun p => p ≠ .scalar '\r' ∧ p ≠ .scalar '\n') with
    | none =>
      rw [hc] at h
      cases h
    | some cs =>
      rw [hc] at h
      obtain ⟨-, h⟩ := ite_eq_ok_iff.mp h
      obtain ⟨ns, pads, hs, hp, rfl, rfl⟩ := decodeLine_eq_ok_iff.mp h
      exact ⟨ns, ⟨hs, pads, hp, Text.chars?_eq_some_iff.mp hc⟩, rfl⟩
  · rintro ⟨ns, ⟨hs, pads, hp, hl⟩, rfl⟩
    simp only [Text.chars?_eq_some_iff.mpr hl, ascii_line hs, if_true]
    exact decodeLine_eq_ok_iff.mpr ⟨ns, pads, hs, hp, rfl, rfl⟩

theorem Spells.means (h : Spells t ns) : Means t (bytesOfSextets ns) :=
  ⟨ns, h, length_bytesOfSextets ns, byteBits_bytesOfSextets h.sextets⟩

theorem means_iff : Means t bytes ↔ decode t = .ok bytes := by
  rw [decode_eq_ok_iff]
  constructor
  · rintro ⟨ns, hs, hl, hb⟩
    refine ⟨ns, hs, byteBits_inj ?_⟩
    rw [hb, byteBits_bytesOfSextets hs.sextets, hl, length_bytesOfSextets]
  · rintro ⟨ns, hs, rfl⟩
    exact hs.means

theorem Means.unique (h : Means t bytes) (h' : Means t bytes') : bytes = bytes' :=
  Except.ok.inj ((means_iff.mp h).symm.trans (means_iff.mp h'))

theorem not_spells_of_decode {f : Fault} (h : decode t = .error f) : ¬ ∃ ns, Spells t ns := by
  rintro ⟨ns, hs⟩
  cases h.symm.trans (means_iff.mp hs.means)

-- Complete groups may have any padding behind them, and bits that fill no byte do not matter.
example : decode (Text.ofString "QU\nJD====") = .ok [65, 66, 67] := by decide
example : decode (Text.ofString "QR==") = decode (Text.ofString "QQ=\n=") := by decide

end ModbusRpc.Base64
