import ModbusRpc.Proofs.Modbus.Commands
import ModbusRpc.Proofs.Rpc.Checks

/-! # What each step checks

Each accessor of a parameter judges by a row of checks of its own, and so does each limit of a
request. A value that is read decides which checks after it pass.
-/

namespace ModbusRpc.Check

variable {ps : Params} {key : Text} {q n : Int} {payload : List UInt8}

def wordAt (key : Text) : List Check := [given key, number key, integer key, word key]

def unit : List Check := [number "slave_id", integer "slave_id", byte "slave_id"]

/-! ### Checks that pass -/

theorem passes_given {v : Json} (h : ps.Gives key v) : (given key).Passes ps := by
  intro k hk
  cases hk with
  | given hl => exact hl v h

theorem passes_number {v : Json} (h : ps.Gives key v) (hv : v.IsNumber) :
    (number key).Passes ps := by
  intro k hk
  cases hk with
  | number hg hn => exact hn (h.unique hg ▸ hv)

theorem passes_integer (h : ps.Gives key (.int n)) (hn : IsInt64 n) :
    (integer key).Passes ps := by
  intro k hk
  cases hk with
  | integer hg hi => exact hi n (hg.unique h) hn

theorem passes_word (h : ps.Gives key (.int n)) (hn : 0 ≤ n ∧ n ≤ 65535) :
    (word key).Passes ps := by
  intro k hk
  cases hk with
  | word hg hw => cases hg.unique h; exact hw hn

theorem passes_byte (h : ps.Gives key (.int n)) (hn : 0 ≤ n ∧ n ≤ 255) :
    (byte key).Passes ps := by
  intro k hk
  cases hk with
  | byte hg hb => cases hg.unique h; exact hb hn

theorem passes_of_lacks (h : ps.Lacks key) :
    (number key).Passes ps ∧ (integer key).Passes ps ∧ (byte key).Passes ps := by
  refine ⟨fun k hk => ?_, fun k hk => ?_, fun k hk => ?_⟩
  · cases hk with
    | number hg _ => exact h _ hg
  · cases hk with
    | integer hg _ => exact h _ hg
  · cases hk with
    | byte hg _ => exact h _ hg

theorem passes_bit (h : ps.Gives "value" (.int n)) (hn : n = 0 ∨ n = 1) : bit.Passes ps := by
  intro k hk
  cases hk with
  | bit hg h0 h1 => cases hg.unique h; exact hn.elim h0 h1

theorem passes_payload (h : ps.HasBytes "value" payload) : Check.payload.Passes ps := by
  obtain ⟨t, ht, ns, hs, -⟩ := h.exists_gives
  intro k hk
  cases hk with
  | noText hn => exact hn t ht
  | noBase64 ht' hn _ => cases ht.unique ht'; exact hn ⟨ns, hs⟩

theorem passes_quantity {greatest : Int} (h : ps.Gives "quantity" (.int q))
    (hq : 1 ≤ q ∧ q ≤ greatest) : (quantity greatest).Passes ps := by
  intro k hk
  cases hk with
  | quantity hg hn => cases hg.unique h; exact hn hq

theorem passes_byteCount (h : ps.HasBytes "value" payload) (hl : payload.length ≤ 255) :
    byteCount.Passes ps := by
  obtain ⟨t, ht, hm⟩ := h.exists_gives
  intro k hk
  cases hk with
  | byteCount ht' hm' hn => cases ht.unique ht'; cases hm.unique hm'; omega

theorem passes_byteCountFor {expected : Int → Int} (hq : ps.Gives "quantity" (.int q))
    (h : ps.HasBytes "value" payload) (hl : (payload.length : Int) = expected q) :
    (byteCountFor expected).Passes ps := by
  obtain ⟨t, ht, hm⟩ := h.exists_gives
  intro k hk
  cases hk with
  | byteCountFor hq' ht' hm' hn =>
    cases hq.unique hq'
    cases ht.unique ht'
    cases hm.unique hm'
    exact hn hl

namespace Judges

theorem integer_of_gives {v : Json} {default? : Option Int} (h : ps.Gives key v) :
    Judges Fault.param ps [number key, integer key] (ps.integer key default?) := by
  unfold Params.integer
  rw [Params.gives_iff.mp h]
  cases v with
  | int n =>
    refine .cons (passes_number h (.inl ⟨n, rfl⟩)) ?_
    exact .ite (passes_integer h) (fun hn => ⟨.integer h fun _ hk => Json.int.inj hk ▸ hn, rfl⟩) .ok
  | float x =>
    exact .cons (passes_number h (.inr ⟨x, rfl⟩)) (.refuses rfl (.head (.integer h nofun)) rfl)
  | null => exact absurd rfl h.2
  | bool _ | text _ | array _ | object _ =>
    exact .refuses rfl (.head (.number h (by simp [Json.IsNumber]))) rfl

theorem integer_required (key : Text) :
    Judges Fault.param ps [given key, number key, integer key] (ps.integer key none) := by
  cases hg : ps.given? key with
  | some v =>
    have hv := Params.gives_iff.mpr hg
    exact (integer_of_gives hv).cons (passes_given hv)
  | none =>
    have he : ps.integer key none = .error (.required key) := by
      unfold Params.integer
      rw [hg]
    exact .refuses he (.head (.given (Params.lacks_iff.mpr hg))) rfl

theorem integer_default (key : Text) (d : Int) :
    Judges Fault.param ps [number key, integer key] (ps.integer key (some d)) := by
  cases hg : ps.given? key with
  | some v => exact integer_of_gives (Params.gives_iff.mpr hg)
  | none =>
    have ha : ps.integer key (some d) = .ok d := by
      unfold Params.integer
      rw [hg]
    obtain ⟨hn, hi, _⟩ := passes_of_lacks (Params.lacks_iff.mpr hg)
    exact .cons hn (.cons hi (.passes ha nofun))

theorem word (key : Text) : Judges Fault.param ps (wordAt key) (ps.word key none) := by
  refine (integer_required key).bind fun n hn => ?_
  rcases Params.gives_of_integer hn with hg | ⟨_, hd⟩
  · exact .ite (passes_word hg) (fun hw => ⟨.word hg hw, rfl⟩) .ok
  · cases hd

theorem unit : Judges Fault.param ps Check.unit ps.unit := by
  refine (integer_default "slave_id" 0).bind fun n hn => ?_
  rcases Params.gives_of_integer hn with hg | ⟨hl, hd⟩
  · exact .ite (passes_byte hg) (fun hb => ⟨.byte hg hb, rfl⟩) .ok
  · cases hd
    exact .cons (passes_of_lacks hl).2.2 (.passes rfl nofun)

theorem addressAnd (key : Text) :
    Judges Fault.param ps (wordAt "address" ++ wordAt key) (Params.addressAnd key ps) :=
  (word "address").bind fun _ _ => (word key).bind_ok

theorem encode (h : ps.Gives "value" (.int n)) : Judges Fault.param ps [bit] (Coil.encode n) := by
  unfold Coil.encode
  by_cases h1 : n = 1
  · exact .cons (passes_bit h (.inr h1)) (.passes (if_pos h1) nofun)
  · rw [if_neg h1]
    exact .ite (fun h0 => passes_bit h (.inl h0)) (fun h0 => ⟨.bit h h0 h1, rfl⟩) .ok

theorem bytes : Judges Fault.param ps [Check.payload] (ps.bytes "value") := by
  by_cases ht : ∃ t, ps.Gives "value" (.text t)
  · obtain ⟨t, ht⟩ := ht
    have hb : ps.bytes "value" = (Base64.decode t).mapError .notBase64 := by
      unfold Params.bytes
      rw [Params.gives_iff.mp ht]
    cases hd : Base64.decode t with
    | error f =>
      have he : ps.bytes "value" = .error (.notBase64 f) := by
        rw [hb, hd]
        rfl
      exact .refuses he (.head (.noBase64 ht (Base64.not_spells_of_decode hd) hd)) rfl
    | ok payload =>
      have ha : ps.bytes "value" = .ok payload := by
        rw [hb, hd]
        rfl
      exact .cons (passes_payload ⟨t, ht.1, Base64.means_iff.mpr hd⟩) (.passes ha nofun)
  · have ht : ∀ t, ¬ ps.Gives "value" (.text t) := fun t h => ht ⟨t, h⟩
    have hb : ps.bytes "value" = .error (.notText "value") := by
      unfold Params.bytes
      split
      · rename_i t hg
        exact absurd (Params.gives_iff.mpr hg) (ht t)
      · rfl
    exact .refuses hb (.head (.noText ht)) rfl

/-! ### Requests -/

theorem checkQuantity {greatest : Int} (h : ps.Gives "quantity" (.int q)) :
    Judges id ps [quantity greatest] (checkQuantity q greatest) :=
  .ite (passes_quantity h) (fun hq => ⟨.quantity h hq, _, rfl, rfl⟩) .ok

theorem checkByteCount {expected : Int → Int} (hq : ps.Gives "quantity" (.int q))
    (hb : ps.HasBytes "value" payload) :
    Judges id ps [byteCount, byteCountFor expected] (checkByteCount payload (expected q)) := by
  obtain ⟨t, ht, hm⟩ := hb.exists_gives
  unfold ModbusRpc.checkByteCount maxByteCount
  by_cases hc : 255 < payload.length
  · exact .refuses (if_pos hc) (.head (.byteCount ht hm hc)) ⟨_, rfl, rfl⟩
  · rw [if_neg hc]
    refine .cons (passes_byteCount hb (Nat.not_lt.mp hc)) ?_
    by_cases he : (payload.length : Int) = expected q
    · exact .cons (passes_byteCountFor hq hb he) (.passes (if_neg (not_not.mpr he)) nofun)
    · exact .refuses (if_pos he) (.head (.byteCountFor hq ht hm he)) ⟨_, rfl, rfl⟩

end Judges

end ModbusRpc.Check
