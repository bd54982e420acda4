import ModbusRpc.Proofs.Link.Use

/-! # Links for one framer

A link that is always used with one framer never replaces its client. All its clients are created
for that framer, and a use closes one for two reasons only: connecting it was refused, or its
connection broke during the request.
-/

namespace ModbusRpc.Link

variable {ρ : Type} {w : Wire} {plan : Plan ρ} {framer : Framer} {request : ρ} {l m : Link}
  {n k : Nat} {opening es before after : List (Event ρ)} {v : Except Fault Response}

/-- A link that has no client for any other framer. -/
structure Tuned (framer : Framer) (l : Link) : Prop where
  paired : l.framer.isSome = l.client.isSome
  framer_eq : ∀ other, l.framer = some other → other = framer

theorem Tuned.setConnected (h : Tuned framer l) (on : Bool) : Tuned framer (l.setConnected on) :=
  ⟨by simp [Link.setConnected, h.paired], h.framer_eq⟩

theorem Use.tuned (h : Use w plan framer request l es v m)
    (hp : m.framer.isSome = m.client.isSome) : Tuned framer m := by
  refine ⟨hp, fun other ho => ?_⟩
  cases h with
  | uncreated _ _ hm => simp [hm, ho] at hp
  | unconnected _ _ _ _ hf => exact Option.some.inj (ho.symm.trans hf)
  | refused _ _ _ _ hf => cases ho.symm.trans hf
  | kept _ _ _ hk => exact Option.some.inj (ho.symm.trans hk.framer_eq)
  | broken _ _ _ _ hd => cases ho.symm.trans hd.framer_eq

/-- What a use of a tuned link closes a client for. -/
inductive ClosedFor (plan : Plan ρ) (request : ρ) (n : Nat) : List (Event ρ) → Prop where
  | refusal {before : List (Event ρ)} : plan.connect = .ok false → [.connect n] <:+ before →
      ClosedFor plan request n before
  | breakage {before : List (Event ρ)} {fault : DeviceFault} : plan.reply request = .error fault →
      fault.kind = .stack .connection → [.request n request, .reply n] <:+ before →
      ClosedFor plan request n before

end ModbusRpc.Link
