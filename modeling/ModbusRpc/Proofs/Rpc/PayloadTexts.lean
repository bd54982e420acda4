import ModbusRpc.Proofs.Payload.LineBreaks
import ModbusRpc.Proofs.Rpc.Params
import ModbusRpc.Rpc.Reply

/-! # Payloads given as text

A payload is accepted if its parameter is a text that spells sextets, and these alone tell which
bytes it has. Everything else is a fault of the caller. So every payload can be given as text,
broken into lines in any way.
-/

namespace ModbusRpc.Params

open Base64

variable {ps : Params} {key t : Text} {ns : List Nat}

theorem bytes_of_spells (ht : Members.get? ps key = some (.text t)) (hs : Spells t ns) :
    ps.bytes key = .ok (bytesOfSextets ns) :=
  bytes_eq_ok_iff.mpr ⟨t, ht, hs.means⟩

/-- A payload is accepted if it is a text that spells sextets. It has all bytes that their bits
fill, and other texts with the same bits in these bytes give the same payload. Any other value, or
none, is reported to the caller as a fault in the parameters. -/
theorem accepts_iff_spells (ps : Params) (key : Text) :
    ((∃ payload, ps.bytes key = .ok payload) ↔
      ∃ t ns, Members.get? ps key = some (.text t) ∧ Spells t ns) ∧
    (∀ t ns, Members.get? ps key = some (.text t) → Spells t ns →
      ∃ payload, ps.bytes key = .ok payload ∧ payload.length = 6 * ns.length / 8 ∧
        byteBits payload = (sextetBits ns).take (8 * payload.length)) ∧
    (∀ (ps' : Params) (key' t t' : Text) (ns ns' : List Nat),
      Members.get? ps key = some (.text t) → Members.get? ps' key' = some (.text t') →
      Spells t ns → Spells t' ns' →
      (sextetBits ns).take (8 * (6 * ns.length / 8)) =
        (sextetBits ns').take (8 * (6 * ns'.length / 8)) →
      ps.bytes key = ps'.bytes key') ∧
    ((¬ ∃ t ns, Members.get? ps key = some (.text t) ∧ Spells t ns) →
      ∃ fault data, ps.bytes key = .error fault ∧
        (Fault.param fault).rpcError? = some ⟨.invalidParams, data⟩) := by
  have hiff : (∃ payload, ps.bytes key = .ok payload) ↔
      ∃ t ns, Members.get? ps key = some (.text t) ∧ Spells t ns := by
    constructor
    · rintro ⟨payload, h⟩
      obtain ⟨t, ht, ns, hs, -⟩ := bytes_eq_ok_iff.mp h
      exact ⟨t, ns, ht, hs⟩
    · rintro ⟨t, ns, ht, hs⟩
      exact ⟨_, bytes_of_spells ht hs⟩
  refine ⟨hiff, fun t ns ht hs => ?_, fun ps' key' t t' ns ns' ht ht' hs hs' h => ?_, fun hn => ?_⟩
  · exact ⟨_, bytes_of_spells ht hs, length_bytesOfSextets ns, byteBits_bytesOfSextets hs.sextets⟩
  · rw [bytes_of_spells ht hs, bytes_of_spells ht' hs', Except.ok.injEq]
    apply byteBits_inj
    rw [byteBits_bytesOfSextets hs.sextets, byteBits_bytesOfSextets hs'.sextets,
      length_bytesOfSextets, length_bytesOfSextets, h]
  · cases hb : ps.bytes key with
    | ok payload => exact absurd (hiff.mp ⟨payload, hb⟩) hn
    | error fault => exact ⟨fault, _, rfl, rfl⟩

/-- Every payload has an encoding: whole groups of four whose sextets have its bits, filled up with
zeros. Whatever line breaks are put into it, and wherever, the bytes read from it are the
payload. -/
theorem bytes_of_broken_lines (payload : List UInt8) :
    Encodes (encode payload) payload ∧
    ∀ (ps : Params) (key t : Text), Members.get? ps key = some (.text t) →
      Broken (encode payload) t → ps.bytes key = .ok payload := by
  refine ⟨encodes_encode payload, fun ps key t ht hb => bytes_eq_ok_iff.mpr ⟨t, ht, ?_⟩⟩
  rw [means_iff, hb.decode_eq, decode_encode]

theorem bytes_of_broken_lines_group :
    let t : Text := ['\r', '\n', 'z', 'Q', '\r', 'E', '\n', '\n', '=', '\r', '\n'].map .scalar
    let ps : Params := [("address", .int 3), ("value", .text t)]
    Members.get? ps "value" = some (.text t) ∧ Broken (encode [0xCD, 0x01]) t ∧
      ps.bytes "value" = .ok [0xCD, 0x01] := by
  intro t ps
  have hb : Broken (encode [0xCD, 0x01]) t := by
    have he : encode [0xCD, 0x01] = ['z', 'Q', 'E', '='].map .scalar := by decide
    have hr : '\r' = '\r' ∨ '\r' = '\n' := .inl rfl
    have hn : '\n' = '\r' ∨ '\n' = '\n' := .inr rfl
    rw [he]
    exact .insert hr <| .insert hn <| .keep _ <| .keep _ <| .insert hr <| .keep _ <| .insert hn <|
      .insert hn <| .keep _ <| .insert hr <| .insert hn .nil
  exact ⟨rfl, hb, (bytes_of_broken_lines [0xCD, 0x01]).2 ps "value" t rfl hb⟩

end ModbusRpc.Params
