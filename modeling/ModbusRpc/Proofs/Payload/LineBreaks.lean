import ModbusRpc.Proofs.Payload.Base64Texts

/-! # Payloads in lines

The text of a payload has its bits in sixes, filled up with two zeros for each padding character. It
may be broken into lines at any place, in a group of four or in the padding too, and stands for the
same bytes.
-/

namespace ModbusRpc.Base64

variable {s t : Text} {ns : List Nat} {bytes : List UInt8}

/-- The same text with any line breaks put in. -/
inductive Broken : Text → Text → Prop where
  | nil : Broken [] []
  | keep (p : CodePoint) {s t : Text} : Broken s t → Broken (p :: s) (p :: t)
  | insert {c : Char} {s t : Text} : c = '\r' ∨ c = '\n' → Broken s t → Broken s (.scalar c :: t)

/-- The text in whole groups of four whose sextets have the bits of the bytes, and two zeros more
for each padding character. -/
def Encodes (t : Text) (bytes : List UInt8) : Prop :=
  ∃ ns pads, (∀ n ∈ ns, n < 64) ∧ pads < 3 ∧ (ns.length + pads) % 4 = 0 ∧
    t = (ns.map digit ++ List.replicate pads '=').map .scalar ∧
    sextetBits ns = byteBits bytes ++ List.replicate (2 * pads) false

/-! ### Line breaks -/

theorem isLineBreak_scalar {c : Char} (h : c = '\r' ∨ c = '\n') :
    isLineBreak (.scalar c) = true := by
  rcases h with rfl | rfl <;> decide

theorem Broken.filter_eq (h : Broken s t) :
    t.filter (fun p => !isLineBreak p) = s.filter (fun p => !isLineBreak p) := by
  induction h with
  | nil => rfl
  | keep p _ ih => rw [List.filter_cons, List.filter_cons, ih]
  | insert hc _ ih => rw [List.filter_cons_of_neg (by simp [isLineBreak_scalar hc]), ih]

theorem Broken.decode_eq (h : Broken s t) : decode t = decode s := by
  unfold decode
  rw [h.filter_eq]

/-! ### The bits of a text -/

theorem highFirst_zero (width : Nat) : highFirst width 0 = List.replicate width false := by
  refine List.ext_getElem (by simp) fun i _ _ => ?_
  simp [highFirst]

/-- Padding completes the last group, and its zeros the last sextet. -/
theorem sextetBits_sextets (bytes : List UInt8) : sextetBits (sextets bytes) =
    byteBits bytes ++ List.replicate (2 * ((3 - bytes.length % 3) % 3)) false := by
  fun_induction sextets bytes with
  | case1 a b c rest ih =>
    have ha := a.toNat_lt
    have hb := b.toNat_lt
    have hc := c.toNat_lt
    have hl : (a :: b :: c :: rest).length % 3 = rest.length % 3 := by
      simp only [List.length_cons]
      omega
    rw [hl, sextetBits_first (by omega) (by omega), sextetBits_second (by omega),
      sextetBits_third (by omega), toUInt8_eq (b := a) (by omega), toUInt8_eq (b := b) (by omega),
      toUInt8_eq (b := c) (by omega), ih]
    simp [byteBits]
  | case2 a b =>
    have ha := a.toNat_lt
    have hb := b.toNat_lt
    have h0 : b.toNat % 16 * 4 % 4 = 0 := by omega
    rw [sextetBits_first (by omega) (by omega), sextetBits_second (by omega),
      toUInt8_eq (b := a) (by omega), toUInt8_eq (b := b) (by omega), h0, highFirst_zero]
    simp [byteBits, sextetBits]
  | case3 a =>
    have ha := a.toNat_lt
    have h0 : a.toNat % 4 * 16 % 16 = 0 := by omega
    rw [sextetBits_first (by omega) (by omega), toUInt8_eq (b := a) (by omega), h0, highFirst_zero]
    simp [byteBits, sextetBits]
  | case4 => rfl

theorem encodes_encode (bytes : List UInt8) : Encodes (encode bytes) bytes := by
  refine ⟨sextets bytes, (3 - bytes.length % 3) % 3, fun n hn => lt_of_mem_sextets hn, by omega,
    length_sextets_add_pads bytes, rfl, sextetBits_sextets bytes⟩

example : encode [0xFB, 0xEF, 0xFF, 0x00] = Text.ofString "++//AA==" := by decide

end ModbusRpc.Base64
