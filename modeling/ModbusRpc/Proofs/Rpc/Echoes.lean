import ModbusRpc.Proofs.Modbus.Payloads
import ModbusRpc.Proofs.Rpc.Ranges

/-! # Writes and their echoes

A unit acknowledges a write by the address and a number: the value that it has written, or how many
values it has. The call succeeds if both are what the call has asked for, and its value is then told
by the request alone. A response may also lack the echo of a single value. It never acknowledges a
register then, but it does acknowledge a coil that is switched off.
-/

namespace ModbusRpc

variable {m : Method} {ps : Params} {request : Request} {u a q n e : Int} {on : Bool}
  {payload : List UInt8} {op : Operation} {r : Response}

namespace Method

/-- The parameter of a write that its unit has to echo. -/
def echoedKey? : Method → Option String
  | writeCoil | writeRegister => some "value"
  | writeMultipleCoils | writeMultipleRegisters => some "quantity"
  | readCoil | readDiscrete | readInput | readHolding => none

/-- What a response echoes of a write, if anything. A coil is zero or one, as it is to callers. -/
def echo? (m : Method) (r : Response) : Option Int :=
  match m with
  | writeCoil => r.bits.head?.map fun on => if on then 1 else 0
  | writeRegister => r.registers.head?
  | writeMultipleCoils | writeMultipleRegisters => some r.count
  | readCoil | readDiscrete | readInput | readHolding => none

/-- The number that stands on the wire for a number of the method. -/
def onWire (m : Method) (n : Int) : Int :=
  match m with
  | writeCoil => if n = 1 then coilOn else coilOff
  | _ => n

/-- What a write takes for its echo on the wire. A coil without an echo counts as off. -/
def taken? (m : Method) (r : Response) : Option Int :=
  match m with
  | writeCoil => some ((echo? writeCoil r).elim coilOff (onWire writeCoil))
  | _ => m.echo? r

def acknowledgement (m : Method) (n : Int) : Value :=
  match m with
  | writeCoil => .single n
  | _ => .list [n]

theorem taken?_of_echo (h : m.echo? r = some e) : m.taken? r = some (m.onWire e) := by
  cases m with
  | writeCoil => simp [taken?, h]
  | _ => exact h

theorem value_wordBytes (hm : m ≠ .writeCoil) (hn : IsWord n) :
    m.value (wordBytes n) = .ok (.list [n]) := by
  rw [← payloadValues_wordBytes hn]
  cases m with
  | writeCoil => exact absurd rfl hm
  | _ => rfl

theorem coilState_eq (r : Response) : some r.coilState = taken? writeCoil r := by
  unfold Response.coilState taken? echo?
  cases r.bits.head? with
  | none => rfl
  | some on => cases on <;> rfl

end Method

/-- A write with sound parameters: its request, and the number that its unit has to echo. -/
structure Writes (ps : Params) (m : Method) (request : Request) (n : Int) : Prop where
  sound : Sound ps m request
  asked : ∃ key, m.echoedKey? = some key ∧ Members.get? ps key = some (.int n)

theorem Writes.exists_bit (h : Writes ps .writeCoil request n) :
    ∃ on : Bool, n = if on then 1 else 0 := by
  obtain ⟨⟨-, -, hc⟩, _, ⟨⟩, hn⟩ := h
  generalize request.command = c at hc
  cases hc with
  | @writeCoil on hv => exact ⟨on, by cases hv.symm.trans hn; rfl⟩

theorem Writes.onWire_eq_iff (h : Writes ps m request n) (hr : m.echo? r = some e) :
    m.onWire e = m.onWire n ↔ e = n := by
  cases m with
  | writeCoil =>
    obtain ⟨on, rfl⟩ := h.exists_bit
    obtain ⟨on', -, rfl⟩ := Option.map_eq_some_iff.mp hr
    cases on <;> cases on' <;> decide
  | _ => rfl

/-- Without an echo, only a coil to be switched off has the number that is taken for it. -/
theorem Writes.eq_zero_of_taken (h : Writes ps m request n) (hr : m.echo? r = none)
    (ht : m.taken? r = some (m.onWire n)) : m = .writeCoil ∧ n = 0 := by
  cases m with
  | writeCoil =>
    obtain ⟨on, rfl⟩ := h.exists_bit
    refine ⟨rfl, ?_⟩
    rw [Method.taken?, hr] at ht
    cases on with
    | false => rfl
    | true => cases ht
  | _ => cases hr.symm.trans ht

/-! ### Operations -/

/-- An operation that is acknowledged by its address and a number. -/
structure Operation.Expects (op : Operation) (m : Method) (address n : Int) : Prop where
  isWord : IsWord (m.onWire n)
  payload (r : Response) : r.functionCode ≤ 128 →
    op.payload r = writeEcho r (m.taken? r) address (m.onWire n)
  value : m.value (wordBytes (m.onWire n)) = .ok (m.acknowledgement n)

namespace Operation

theorem expects_writeCoil : (writeCoil a (if on then coilOn else coilOff)).Expects .writeCoil a
    (if on then 1 else 0) := by
  have hw : Method.onWire .writeCoil (if on then 1 else 0) = if on then coilOn else coilOff := by
    cases on <;> rfl
  have hs : IsWord (if on then coilOn else coilOff) := by cases on <;> decide
  constructor
  · rwa [hw]
  · intro r he
    rw [Operation.payload, if_neg (Response.not_isException he), Method.coilState_eq, hw]
  · rw [hw, Method.value, Coil.normalize_wordBytes]
    rfl

theorem expects_writeRegister (hn : IsWord n) : (writeRegister a n).Expects .writeRegister a n where
  isWord := hn
  payload _ he := if_neg (Response.not_isException he)
  value := Method.value_wordBytes nofun hn

theorem expects_writeCoils (hq : IsWord q) :
    (writeCoils a q payload).Expects .writeMultipleCoils a q where
  isWord := hq
  payload _ he := if_neg (Response.not_isException he)
  value := Method.value_wordBytes nofun hq

theorem expects_writeRegisters (hq : IsWord q) :
    (writeRegisters a q payload).Expects .writeMultipleRegisters a q where
  isWord := hq
  payload _ he := if_neg (Response.not_isException he)
  value := Method.value_wordBytes nofun hq

end Operation

namespace Service

/-! ### Dispatch -/

theorem dispatch_writeCoil (hu : ps.HasUnit u) (ha : ps.HasWord "address" a)
    (hv : Members.get? ps "value" = some (.int (if on then 1 else 0))) :
    dispatch "modbus-write-coil" ps = .ok ⟨.writeCoil,
      .writeCoil a (if on then coilOn else coilOff), ⟨u, a, .writeCoil on⟩⟩ := by
  have hn : ps.HasWord "value" (if on then 1 else 0) := ⟨hv, by cases on <;> decide⟩
  have ho : Method.order .writeCoil ps =
      .ok ⟨u, .writeCoil a (if on then coilOn else coilOff)⟩ := by
    rw [Method.order, Params.addressAndValue, Params.addressAnd_eq_ok_iff.mpr ⟨ha, hn⟩,
      Params.unit_eq_ok_iff.mpr hu]
    cases on <;> rfl
  exact dispatch_of_order .writeCoil ho Operation.command_writeCoil

theorem dispatch_writeRegister (hu : ps.HasUnit u) (ha : ps.HasWord "address" a)
    (hn : ps.HasWord "value" n) :
    dispatch "modbus-write-register" ps =
      .ok ⟨.writeRegister, .writeRegister a n, ⟨u, a, .writeRegister n⟩⟩ := by
  have ho : Method.order .writeRegister ps = .ok ⟨u, .writeRegister a n⟩ := by
    rw [Method.order, Params.addressAndValue, Params.addressAnd_eq_ok_iff.mpr ⟨ha, hn⟩,
      Params.unit_eq_ok_iff.mpr hu]
    rfl
  exact dispatch_of_order .writeRegister ho rfl

theorem exists_dispatch_of_writes {name : String} (hm : Method.Named name m)
    (h : Writes ps m request n) : ∃ op,
      dispatch name ps = .ok ⟨m, op, request⟩ ∧ op.Expects m request.address n := by
  obtain ⟨⟨hu, ha, hc⟩, key, hk, hn⟩ := h
  obtain ⟨u, a, c⟩ := request
  cases hc with
  | readCoil | readDiscrete | readInput | readHolding => cases hk
  | writeCoil hv =>
    cases hk
    cases hm
    cases hv.symm.trans hn
    exact ⟨_, dispatch_writeCoil hu ha hv, Operation.expects_writeCoil⟩
  | writeRegister hv =>
    cases hk
    cases hm
    cases hv.1.symm.trans hn
    exact ⟨_, dispatch_writeRegister hu ha hv, Operation.expects_writeRegister hv.2⟩
  | writeMultipleCoils hq hb hl hlen hbits =>
    cases hk
    cases hm
    cases hq.1.symm.trans hn
    have hq' := hq.2
    obtain rfl := (areBits_iff (by omega)).mp ⟨hlen, hbits⟩
    exact ⟨_, dispatch_writeCoils ⟨⟨hu, ha, hq⟩, hb⟩ hl,
      Operation.expects_writeCoils ⟨by omega, by omega⟩⟩
  | writeMultipleRegisters hq hb hl hlen hws =>
    cases hk
    cases hm
    cases hq.1.symm.trans hn
    have hq' := hq.2
    obtain rfl := (areWords_iff hl).mp ⟨hlen, hws⟩
    exact ⟨_, dispatch_writeRegisters ⟨⟨hu, ha, hq⟩, hb⟩ hl,
      Operation.expects_writeRegisters ⟨by omega, by omega⟩⟩

/-! ### Outcomes -/

section Conclude

variable (h : op.Expects m a n) (he : r.functionCode ≤ 128)

include h he

theorem conclude_of_address_ne (ha : r.address ≠ a) :
    (Dispatch.mk m op request).conclude r = .error (.response (.address r.address a)) := by
  rw [Dispatch.conclude, h.payload r he, writeEcho_of_address_ne ha]
  rfl

theorem conclude_of_taken_ne (ha : r.address = a) (ht : m.taken? r ≠ some (m.onWire n)) :
    (Dispatch.mk m op request).conclude r =
      .error (.response (.value (m.taken? r) (m.onWire n))) := by
  rw [Dispatch.conclude, h.payload r he, writeEcho_of_ne ha ht]
  rfl

theorem conclude_of_taken (ha : r.address = a) (ht : m.taken? r = some (m.onWire n)) :
    (Dispatch.mk m op request).conclude r = .ok (m.acknowledgement n) := by
  rw [Dispatch.conclude, h.payload r he, writeEcho_of_eq ha ht h.isWord]
  exact h.value

end Conclude

theorem run_write {σ : Type} {device : Framer → Request → StateM σ (Except Fault Response)} {s : σ}
    {mode : Mode} {name : String} {ps : Option Params} (hm : Method.Named name m)
    (h : Writes (ps.getD []) m request n)
    (hr : ((device (mode.framer request.unit) request).run s).1 = .ok r)
    (he : r.functionCode ≤ 128) :
    ((call device mode name ps).run s).1 =
      if r.address = request.address then
        if m.taken? r = some (m.onWire n) then .ok (m.acknowledgement n)
        else .error (.response (.value (m.taken? r) (m.onWire n)))
      else .error (.response (.address r.address request.address)) := by
  obtain ⟨op, hd, hx⟩ := exists_dispatch_of_writes hm h
  rw [run_call_of_ok hd hr]
  split_ifs with ha ht
  · exact conclude_of_taken hx he ha ht
  · exact conclude_of_taken_ne hx he ha ht
  · exact conclude_of_address_ne hx he ha

/-- A write succeeds exactly if its address and its number are echoed, and then the request alone
tells the value of the call: a coil is on or off as the caller has put it, whatever stands for this
on the wire. Another address is reported before another number is. -/
theorem write_succeeds_iff_echoed {σ : Type}
    (device : Framer → Request → StateM σ (Except Fault Response)) (s : σ) (mode : Mode)
    (m : Method) (ps : Option Params) {name : String} {request : Request} {n e : Int}
    {r : Response} (hm : Method.Named name m) (h : Writes (ps.getD []) m request n)
    (hr : ((device (mode.framer request.unit) request).run s).1 = .ok r)
    (he : r.functionCode ≤ 128) (hecho : m.echo? r = some e) :
    let out := ((call device mode name ps).run s).1
    ((∃ v, out = .ok v) ↔ r.address = request.address ∧ e = n) ∧
    (∀ v, out = .ok v → v = m.acknowledgement n) ∧
    (r.address ≠ request.address →
      out = .error (.response (.address r.address request.address))) ∧
    (r.address = request.address → e ≠ n →
      out = .error (.response (.value (some (m.onWire e)) (m.onWire n)))) ∧
    ∀ on : Bool, ∃ state bytes, Coil.encode (if on then 1 else 0) = .ok state ∧
      packedWords 1 [state] = .ok bytes ∧
      Coil.normalize (payloadValues bytes) = .ok (if on then 1 else 0) := by
  intro out
  have hout := run_write hm h hr he
  have ht : m.taken? r = some (m.onWire n) ↔ e = n := by
    rw [Method.taken?_of_echo hecho, Option.some_inj, h.onWire_eq_iff hecho]
  have hother : r.address ≠ request.address →
      out = .error (.response (.address r.address request.address)) :=
    fun ha => hout.trans (if_neg ha)
  have hne : r.address = request.address → e ≠ n →
      out = .error (.response (.value (some (m.onWire e)) (m.onWire n))) := by
    intro ha hn
    rw [if_pos ha, if_neg (mt ht.mp hn), Method.taken?_of_echo hecho] at hout
    exact hout
  have heq : r.address = request.address → e = n → out = .ok (m.acknowledgement n) := by
    intro ha hn
    rw [if_pos ha, if_pos (ht.mpr hn)] at hout
    exact hout
  have hok : ∀ v, out = .ok v → r.address = request.address ∧ e = n := by
    intro v hv
    by_cases ha : r.address = request.address
    · by_cases hn : e = n
      · exact ⟨ha, hn⟩
      · cases hv.symm.trans (hne ha hn)
    · cases hv.symm.trans (hother ha)
  refine ⟨⟨fun ⟨v, hv⟩ => hok v hv, fun ⟨ha, hn⟩ => ⟨_, heq ha hn⟩⟩, fun v hv => ?_, hother, hne,
    fun on => ?_⟩
  · obtain ⟨ha, hn⟩ := hok v hv
    exact Except.ok.inj (hv.symm.trans (heq ha hn))
  · have hs : IsWord (if on then coilOn else coilOff) := by cases on <;> decide
    refine ⟨_, _, Coil.encode_eq_ok_iff.mpr ⟨on, rfl, rfl⟩,
      packedWords_of_isWord rfl (List.forall_mem_singleton.mpr hs), ?_⟩
    rw [List.flatMap_singleton, Coil.normalize_wordBytes]

theorem write_succeeds_for_coil_on :
    let ps : Params := [("address", .int 172), ("value", .int 1)]
    let device : Response → Framer → Request → StateM Nat (Except Fault Response) :=
      fun r _ _ n => (.ok r, n + 1)
    let out : Response → Except Fault Value := fun r =>
      ((call (device r) .ascii "modbus-write-coil" (some ps)).run 0).1
    Writes ps .writeCoil ⟨0, 172, .writeCoil true⟩ 1 ∧
    out { address := 172, bits := [true] } = .ok (.single 1) ∧
    out { address := 173, bits := [false] } = .error (.response (.address 173 172)) ∧
    out { address := 172, bits := [false, true] } =
      .error (.response (.value (some 0) 0xFF00)) := by
  intro ps device out
  have h : Writes ps .writeCoil ⟨0, 172, .writeCoil true⟩ 1 :=
    ⟨⟨.inr ⟨.inl rfl, rfl⟩, ⟨rfl, by decide⟩, .writeCoil rfl⟩, "value", rfl, rfl⟩
  have hc := fun r e (he : r.functionCode ≤ 128) (hr : Method.echo? .writeCoil r = some e) =>
    write_succeeds_iff_echoed (device r) 0 .ascii .writeCoil (some ps) .writeCoil h rfl he hr
  refine ⟨h, ?_, ?_, ?_⟩
  · obtain ⟨hiff, hv, -⟩ := hc { address := 172, bits := [true] } 1 (by decide) rfl
    obtain ⟨v, hout⟩ := hiff.mpr ⟨rfl, rfl⟩
    exact hout.trans (congrArg _ (hv v hout))
  · exact (hc { address := 173, bits := [false] } 0 (by decide) rfl).2.2.1 (by decide)
  · exact (hc { address := 172, bits := [false, true] } 0 (by decide) rfl).2.2.2.1 rfl (by decide)

/-- A write of a single value whose response has no echo fails for its address, or else for its
value, unless it switches off a coil: this is acknowledged by the address alone. -/
theorem write_without_echo {σ : Type}
    (device : Framer → Request → StateM σ (Except Fault Response)) (s : σ) (mode : Mode)
    (m : Method) (ps : Option Params) {name : String} {request : Request} {n : Int} {r : Response}
    (hm : Method.Named name m) (h : Writes (ps.getD []) m request n)
    (hr : ((device (mode.framer request.unit) request).run s).1 = .ok r)
    (he : r.functionCode ≤ 128) (hecho : m.echo? r = none) :
    let out := ((call device mode name ps).run s).1
    (r.address ≠ request.address →
      out = .error (.response (.address r.address request.address))) ∧
    (r.address = request.address → ¬ (m = .writeCoil ∧ n = 0) →
      out = .error (.response (.value (m.taken? r) (m.onWire n)))) ∧
    (r.address = request.address → m = .writeCoil ∧ n = 0 → out = .ok (.single 0)) := by
  intro out
  have hout := run_write hm h hr he
  refine ⟨fun ha => hout.trans (if_neg ha), fun ha hn => ?_, fun ha ⟨hk, hn⟩ => ?_⟩
  · rw [if_pos ha, if_neg fun ht => hn (h.eq_zero_of_taken hecho ht)] at hout
    exact hout
  · subst hk hn
    have ht : Method.taken? .writeCoil r = some (Method.onWire .writeCoil 0) := by
      rw [Method.taken?, hecho]
      rfl
    rw [if_pos ha, if_pos ht] at hout
    exact hout

theorem write_without_echo_register :
    let ps : Params := [("address", .int 1), ("value", .int 0)]
    let device : Framer → Request → StateM Nat (Except Fault Response) :=
      fun _ _ n => (.ok { address := 1 }, n + 1)
    Writes ps .writeRegister ⟨0, 1, .writeRegister 0⟩ 0 ∧
    ((call device .rtu "modbus-write-register" (some ps)).run 0).1 =
      .error (.response (.value none 0)) := by
  intro ps device
  have h : Writes ps .writeRegister ⟨0, 1, .writeRegister 0⟩ 0 :=
    ⟨⟨.inr ⟨.inl rfl, rfl⟩, ⟨rfl, by decide⟩, .writeRegister ⟨rfl, by decide⟩⟩, "value", rfl, rfl⟩
  refine ⟨h, ?_⟩
  exact (write_without_echo device 0 .rtu .writeRegister (some ps) .writeRegister h rfl (by decide)
    rfl).2.1 rfl (by decide)

/-- A coil that is switched off is reported as off though the response has no more than its
address. -/
theorem write_without_echo_coil :
    let ps : Params := [("address", .int 5), ("value", .int 0)]
    let r : Response := { address := 5 }
    let out := outcome (fun _ => .ok r) .tcp "modbus-write-coil" (some ps)
    Writes ps .writeCoil ⟨0, 5, .writeCoil false⟩ 0 ∧ r.functionCode ≤ 128 ∧ r.bits = [] ∧
      out = .ok (.single 0) ∧ ¬ ∃ f, out = .error (.response f) := by
  intro ps r out
  have h : Writes ps .writeCoil ⟨0, 5, .writeCoil false⟩ 0 :=
    ⟨⟨.inr ⟨.inl rfl, rfl⟩, ⟨rfl, by decide⟩, .writeCoil rfl⟩, "value", rfl, rfl⟩
  have hout : out = .ok (.single 0) := by decide
  refine ⟨h, by decide, rfl, hout, ?_⟩
  rintro ⟨f, hf⟩
  cases hout.symm.trans hf

end Service

end ModbusRpc
