import ModbusRpc.Proofs.Rpc.Dispatch
import ModbusRpc.Proofs.Rpc.Params

/-! # The gate before the link

A call is sound if its parameters have the right types and keep all limits. Then it asks for one
request, which is told by the parameters alone. A sound call makes that request and no other, and a
call that is not sound makes none.
-/

namespace ModbusRpc

/-- These are the bits of a payload from its first byte on, the least significant first. -/
def AreBits (payload : List UInt8) (bits : List Bool) : Prop :=
  ∀ i (h : i < bits.length), bits[i] = (payload.getD (i / 8) 0).toNat.testBit (i % 8)

/-- These are the words of a payload, the high byte of each before the low one. -/
def AreWords (payload : List UInt8) (ws : List Int) : Prop :=
  ∀ i (h : i < ws.length),
    ws[i] = (payload.getD (2 * i) 0).toNat * 256 + (payload.getD (2 * i + 1) 0).toNat

inductive Method.Named : String → Method → Prop where
  | readCoil : Method.Named "modbus-read-coil" .readCoil
  | readDiscrete : Method.Named "modbus-read-discrete" .readDiscrete
  | writeCoil : Method.Named "modbus-write-coil" .writeCoil
  | writeMultipleCoils : Method.Named "modbus-write-multiple-coils" .writeMultipleCoils
  | readInput : Method.Named "modbus-read-input" .readInput
  | readHolding : Method.Named "modbus-read-holding" .readHolding
  | writeRegister : Method.Named "modbus-write-register" .writeRegister
  | writeMultipleRegisters : Method.Named "modbus-write-multiple-registers" .writeMultipleRegisters

theorem Method.named_iff {name : String} {m : Method} : Method.Named name m ↔ m.name = name := by
  constructor
  · rintro (_ | _ | _ | _ | _ | _ | _ | _) <;> rfl
  · rintro rfl
    cases m <;> constructor

/-- What a method is to do, by its parameters other than the unit and the address. -/
inductive Wants (ps : Params) : Method → Command → Prop where
  | readCoil {q : Int} : ps.HasQuantity 2000 q → Wants ps .readCoil (.readBits .coils q)
  | readDiscrete {q : Int} : ps.HasQuantity 2000 q →
      Wants ps .readDiscrete (.readBits .discreteInputs q)
  | readInput {q : Int} : ps.HasQuantity 125 q → Wants ps .readInput (.readWords .inputRegisters q)
  | readHolding {q : Int} : ps.HasQuantity 125 q →
      Wants ps .readHolding (.readWords .holdingRegisters q)
  | writeCoil {on : Bool} : Members.get? ps "value" = some (.int (if on then 1 else 0)) →
      Wants ps .writeCoil (.writeCoil on)
  | writeRegister {n : Int} : ps.HasWord "value" n → Wants ps .writeRegister (.writeRegister n)
  | writeMultipleCoils {q : Int} {payload : List UInt8} {bits : List Bool} :
      ps.HasQuantity 1968 q → ps.HasBytes "value" payload →
      (payload.length : Int) = (q + 7) / 8 → (bits.length : Int) = q → AreBits payload bits →
      Wants ps .writeMultipleCoils (.writeCoils bits)
  | writeMultipleRegisters {q : Int} {payload : List UInt8} {ws : List Int} :
      ps.HasQuantity 123 q → ps.HasBytes "value" payload →
      (payload.length : Int) = 2 * q → (ws.length : Int) = q → AreWords payload ws →
      Wants ps .writeMultipleRegisters (.writeRegisters ws)

/-- A sound call of a method, and the request that it asks for. -/
structure Sound (ps : Params) (m : Method) (r : Request) : Prop where
  unit : ps.HasUnit r.unit
  address : ps.HasWord "address" r.address
  command : Wants ps m r.command

variable {ps : Params} {m : Method} {r : Request} {payload : List UInt8} {q : Int}

theorem areBits_iff {bits : List Bool} (hq : 0 ≤ q) :
    ((bits.length : Int) = q ∧ AreBits payload bits) ↔
      bits = (List.range q.toNat).map (bitAt payload) := by
  constructor
  · rintro ⟨hl, hb⟩
    refine List.ext_getElem (by simp; omega) fun i hi _ => ?_
    rw [hb i hi, List.getElem_map, List.getElem_range, bitAt]
  · rintro rfl
    refine ⟨?_, fun i hi => ?_⟩
    · rw [List.length_map, List.length_range, Int.toNat_of_nonneg hq]
    · rw [List.getElem_map, List.getElem_range, bitAt]

theorem areWords_iff {ws : List Int} (hl : (payload.length : Int) = 2 * q) :
    ((ws.length : Int) = q ∧ AreWords payload ws) ↔ ws = words payload := by
  have hw : ((words payload).length : Int) = q := by
    rw [length_words]
    omega
  constructor
  · rintro ⟨hq, hws⟩
    refine List.ext_getElem (by omega) fun i hi hi' => ?_
    rw [hws i hi, getElem_words, word]
  · rintro rfl
    refine ⟨hw, fun i hi => ?_⟩
    rw [getElem_words, word]

/-! ### The request of a method -/

namespace Method

def Requests (x : Except ParamFault Order) (r : Request) : Prop :=
  ∃ o, x = .ok o ∧ o.operation.request o.unit = .ok r

theorem requests_unit_iff {op : Operation} :
    Requests (do let unit ← ps.unit; .ok ⟨unit, op⟩) r ↔
      ps.HasUnit r.unit ∧ r.address = op.address ∧ op.command = .ok r.command := by
  unfold Requests
  simp only [bind_eq_ok_iff, Params.unit_eq_ok_iff, Operation.request_eq_ok_iff]
  constructor
  · rintro ⟨o, ⟨u, hu, ho⟩, hr, ha, hc⟩
    cases ho
    exact ⟨hr ▸ hu, ha, hc⟩
  · rintro ⟨hu, ha, hc⟩
    exact ⟨_, ⟨r.unit, hu, rfl⟩, rfl, ha, hc⟩

theorem requests_bind_iff {α : Type} {x : Except ParamFault α} {f : α → Except ParamFault Order} :
    Requests (x >>= f) r ↔ ∃ a, x = .ok a ∧ Requests (f a) r := by
  unfold Requests
  simp only [bind_eq_ok_iff]
  constructor
  · rintro ⟨o, ⟨a, ha, ho⟩, hr⟩
    exact ⟨a, ha, o, ho, hr⟩
  · rintro ⟨a, ha, o, ho, hr⟩
    exact ⟨o, ⟨a, ha, ho⟩, hr⟩

theorem requests_addressAnd_iff {key : Text} {f : Int × Int → Except ParamFault Order} :
    Requests (Params.addressAnd key ps >>= f) r ↔
      ∃ a n, ps.HasWord "address" a ∧ ps.HasWord key n ∧ Requests (f (a, n)) r := by
  rw [requests_bind_iff]
  constructor
  · rintro ⟨⟨a, n⟩, h, hr⟩
    obtain ⟨ha, hn⟩ := Params.addressAnd_eq_ok_iff.mp h
    exact ⟨a, n, ha, hn, hr⟩
  · rintro ⟨a, n, ha, hn, hr⟩
    exact ⟨(a, n), Params.addressAnd_eq_ok_iff.mpr ⟨ha, hn⟩, hr⟩

theorem requests_readOrder_iff {op : (address quantity : Int) → Operation}
    (ho : ∀ a q, (op a q).address = a)
    (hw : ∀ a c, (∃ q, ps.HasWord "quantity" q ∧ (op a q).command = .ok c) ↔ Wants ps m c) :
    Requests (readOrder op ps) r ↔ Sound ps m r := by
  unfold readOrder Params.addressAndQuantity
  rw [requests_addressAnd_iff]
  constructor
  · rintro ⟨a, q, ha, hq, hr⟩
    obtain ⟨hu, hr, hc⟩ := requests_unit_iff.mp hr
    rw [ho] at hr
    exact ⟨hu, hr ▸ ha, (hw a _).mp ⟨q, hq, hc⟩⟩
  · rintro ⟨hu, ha, hc⟩
    obtain ⟨q, hq, hc⟩ := (hw r.address _).mpr hc
    exact ⟨r.address, q, ha, hq, requests_unit_iff.mpr ⟨hu, (ho _ _).symm, hc⟩⟩

theorem requests_writeOrder_iff {op : (address quantity : Int) → List UInt8 → Operation}
    (ho : ∀ a q bs, (op a q bs).address = a)
    (hw : ∀ a c, (∃ q bs, ps.HasWord "quantity" q ∧ ps.HasBytes "value" bs ∧
      (op a q bs).command = .ok c) ↔ Wants ps m c) :
    Requests (writeOrder op ps) r ↔ Sound ps m r := by
  unfold writeOrder Params.addressAndQuantity
  rw [requests_addressAnd_iff]
  constructor
  · rintro ⟨a, q, ha, hq, hr⟩
    obtain ⟨bs, hb, hr⟩ := requests_bind_iff.mp hr
    obtain ⟨hu, hr, hc⟩ := requests_unit_iff.mp hr
    rw [ho] at hr
    exact ⟨hu, hr ▸ ha, (hw a _).mp ⟨q, bs, hq, Params.bytes_eq_ok_iff.mp hb, hc⟩⟩
  · rintro ⟨hu, ha, hc⟩
    obtain ⟨q, bs, hq, hb, hc⟩ := (hw r.address _).mpr hc
    refine ⟨r.address, q, ha, hq, requests_bind_iff.mpr ⟨bs, Params.bytes_eq_ok_iff.mpr hb, ?_⟩⟩
    exact requests_unit_iff.mpr ⟨hu, (ho _ _ _).symm, hc⟩

theorem requests_readBits_iff {table : BitTable}
    (hw : ∀ c, (∃ q, ps.HasQuantity 2000 q ∧ c = .readBits table q) ↔ Wants ps m c) :
    Requests (readOrder (.readBits table) ps) r ↔ Sound ps m r := by
  refine requests_readOrder_iff (fun _ _ => rfl) fun a c => ?_
  rw [← hw c]
  refine exists_congr fun q => ?_
  rw [Operation.command_readBits_iff, Params.hasQuantity_iff (by decide)]
  exact and_assoc.symm

theorem requests_readWords_iff {table : WordTable}
    (hw : ∀ c, (∃ q, ps.HasQuantity 125 q ∧ c = .readWords table q) ↔ Wants ps m c) :
    Requests (readOrder (.readWords table) ps) r ↔ Sound ps m r := by
  refine requests_readOrder_iff (fun _ _ => rfl) fun a c => ?_
  rw [← hw c]
  refine exists_congr fun q => ?_
  rw [Operation.command_readWords_iff, Params.hasQuantity_iff (by decide)]
  exact and_assoc.symm

theorem wants_writeCoils_iff (a : Int) (c : Command) :
    (∃ q bs, ps.HasWord "quantity" q ∧ ps.HasBytes "value" bs ∧
      (Operation.writeCoils a q bs).command = .ok c) ↔ Wants ps writeMultipleCoils c := by
  constructor
  · rintro ⟨q, bs, hq, hb, hc⟩
    obtain ⟨hq', hl, rfl⟩ := Operation.command_writeCoils_iff.mp hc
    have h0 : 0 ≤ q := by omega
    obtain ⟨hn, hbits⟩ := (areBits_iff h0).mpr rfl
    exact .writeMultipleCoils ((Params.hasQuantity_iff (by decide)).mpr ⟨hq, hq'⟩) hb hl hn hbits
  · rintro (_ | _ | _ | _ | _ | _ | ⟨hq, hb, hl, hn, hbits⟩)
    obtain ⟨hq, hq'⟩ := (Params.hasQuantity_iff (by decide)).mp hq
    refine ⟨_, _, hq, hb, Operation.command_writeCoils_iff.mpr ⟨hq', hl, ?_⟩⟩
    rw [(areBits_iff (by omega)).mp ⟨hn, hbits⟩]

theorem wants_writeRegisters_iff (a : Int) (c : Command) :
    (∃ q bs, ps.HasWord "quantity" q ∧ ps.HasBytes "value" bs ∧
      (Operation.writeRegisters a q bs).command = .ok c) ↔ Wants ps writeMultipleRegisters c := by
  constructor
  · rintro ⟨q, bs, hq, hb, hc⟩
    obtain ⟨hq', hl, rfl⟩ := Operation.command_writeRegisters_iff.mp hc
    obtain ⟨hn, hws⟩ := (areWords_iff hl).mpr rfl
    exact .writeMultipleRegisters ((Params.hasQuantity_iff (by decide)).mpr ⟨hq, hq'⟩) hb hl hn hws
  · rintro (_ | _ | _ | _ | _ | _ | _ | ⟨hq, hb, hl, hn, hws⟩)
    obtain ⟨hq, hq'⟩ := (Params.hasQuantity_iff (by decide)).mp hq
    refine ⟨_, _, hq, hb, Operation.command_writeRegisters_iff.mpr ⟨hq', hl, ?_⟩⟩
    rw [(areWords_iff hl).mp ⟨hn, hws⟩]

theorem requests_writeCoil_iff : Requests (order writeCoil ps) r ↔ Sound ps writeCoil r := by
  unfold order Params.addressAndValue
  rw [requests_addressAnd_iff]
  constructor
  · rintro ⟨a, n, ha, hn, hr⟩
    obtain ⟨state, hs, hr⟩ := requests_bind_iff.mp hr
    obtain ⟨hu, hr, hc⟩ := requests_unit_iff.mp hr
    obtain ⟨on, rfl, rfl⟩ := Coil.encode_eq_ok_iff.mp hs
    rw [Operation.command_writeCoil] at hc
    refine ⟨hu, hr ▸ ha, ?_⟩
    rw [← Except.ok.inj hc]
    exact .writeCoil hn.1
  · rintro ⟨hu, ha, hc⟩
    generalize he : r.command = c at hc
    cases hc with
    | @writeCoil on hv =>
      have hn : ps.HasWord "value" (if on then 1 else 0) := ⟨hv, by cases on <;> decide⟩
      have hs := Coil.encode_eq_ok_iff.mpr ⟨on, rfl, rfl⟩
      refine ⟨r.address, _, ha, hn, requests_bind_iff.mpr ⟨_, hs, ?_⟩⟩
      apply requests_unit_iff.mpr
      refine ⟨hu, rfl, ?_⟩
      rw [Operation.command_writeCoil, he]

theorem requests_writeRegister_iff :
    Requests (order writeRegister ps) r ↔ Sound ps writeRegister r := by
  unfold order Params.addressAndValue
  rw [requests_addressAnd_iff]
  constructor
  · rintro ⟨a, n, ha, hn, hr⟩
    obtain ⟨hu, hr, hc⟩ := requests_unit_iff.mp hr
    refine ⟨hu, hr ▸ ha, ?_⟩
    rw [← Except.ok.inj hc]
    exact .writeRegister hn
  · rintro ⟨hu, ha, hc⟩
    generalize he : r.command = c at hc
    cases hc with
    | @writeRegister n hn =>
      refine ⟨r.address, n, ha, hn, requests_unit_iff.mpr ⟨hu, rfl, ?_⟩⟩
      rw [he, Operation.command]

theorem requests_iff (m : Method) : Requests (m.order ps) r ↔ Sound ps m r := by
  cases m with
  | readCoil =>
    exact requests_readBits_iff fun c =>
      ⟨fun ⟨_, hq, hc⟩ => hc ▸ .readCoil hq, fun (.readCoil hq) => ⟨_, hq, rfl⟩⟩
  | readDiscrete =>
    exact requests_readBits_iff fun c =>
      ⟨fun ⟨_, hq, hc⟩ => hc ▸ .readDiscrete hq, fun (.readDiscrete hq) => ⟨_, hq, rfl⟩⟩
  | readInput =>
    exact requests_readWords_iff fun c =>
      ⟨fun ⟨_, hq, hc⟩ => hc ▸ .readInput hq, fun (.readInput hq) => ⟨_, hq, rfl⟩⟩
  | readHolding =>
    exact requests_readWords_iff fun c =>
      ⟨fun ⟨_, hq, hc⟩ => hc ▸ .readHolding hq, fun (.readHolding hq) => ⟨_, hq, rfl⟩⟩
  | writeCoil => exact requests_writeCoil_iff
  | writeRegister => exact requests_writeRegister_iff
  | writeMultipleCoils => exact requests_writeOrder_iff (fun _ _ _ => rfl) wants_writeCoils_iff
  | writeMultipleRegisters =>
    exact requests_writeOrder_iff (fun _ _ _ => rfl) wants_writeRegisters_iff

end Method

/-! ### Calls -/

namespace Service

/-- A link that keeps what it is sent, and answers as it likes. -/
def record (answer : List (Framer × Request) → Except Fault Response) (framer : Framer)
    (request : Request) : StateM (List (Framer × Request)) (Except Fault Response) := fun sent =>
  let sent := sent ++ [(framer, request)]
  (answer sent, sent)

def sent (answer : List (Framer × Request) → Except Fault Response) (mode : Mode) (name : String)
    (ps : Option Params) : List (Framer × Request) :=
  ((call (record answer) mode name ps).run []).run.2

def outcome (answer : List (Framer × Request) → Except Fault Response) (mode : Mode) (name : String)
    (ps : Option Params) : Except Fault Value :=
  ((call (record answer) mode name ps).run []).run.1

variable (answer : List (Framer × Request) → Except Fault Response) (mode : Mode) (name : String)
  (ps : Option Params)

section Dispatch

variable {name ps} {d : Dispatch} {fault : Fault}

theorem sent_of_error (h : dispatch name (ps.getD []) = .error fault) :
    sent answer mode name ps = [] := by
  rw [sent, call_of_error _ h]
  rfl

theorem outcome_of_error (h : dispatch name (ps.getD []) = .error fault) :
    outcome answer mode name ps = .error fault := by
  rw [outcome, call_of_error _ h]
  rfl

theorem sent_of_ok (h : dispatch name (ps.getD []) = .ok d) :
    sent answer mode name ps = [(mode.framer d.request.unit, d.request)] := by
  rw [sent, call_of_ok _ h]
  rfl

theorem outcome_of_ok (h : dispatch name (ps.getD []) = .ok d) :
    outcome answer mode name ps =
      answer [(mode.framer d.request.unit, d.request)] >>= d.conclude := by
  rw [outcome, call_of_ok _ h]
  rfl

end Dispatch

theorem sent_of_requests (hr : Method.Requests (m.order (ps.getD [])) r) :
    sent answer mode m.name ps = [(mode.framer r.unit, r)] := by
  obtain ⟨o, ho, hr⟩ := hr
  exact sent_of_ok (d := ⟨m, o.operation, r⟩) answer mode
    (dispatch_eq_ok_iff.mpr ⟨rfl, o.unit, ho, hr⟩)

theorem sent_of_not_requests (hr : ∀ r, ¬ Method.Requests (m.order (ps.getD [])) r) :
    sent answer mode m.name ps = [] := by
  cases hd : dispatch m.name (ps.getD []) with
  | error fault => exact sent_of_error answer mode hd
  | ok d =>
    obtain ⟨hn, unit, ho, hq⟩ := dispatch_eq_ok_iff.mp hd
    obtain rfl := Method.name_inj.mp hn
    exact absurd ⟨_, ho, hq⟩ (hr d.request)

/-- A call of a known method with sound parameters sends one request, the one it asks for, in the
framing of the mode. Any other call sends none, whatever the link would answer. -/
theorem call_sends :
    (∀ m r, Method.Named name m → Sound (ps.getD []) m r →
      ∃ framer, mode.Frames framer ∧ sent answer mode name ps = [(framer, r)]) ∧
    ((¬ ∃ m r, Method.Named name m ∧ Sound (ps.getD []) m r) →
      sent answer mode name ps = []) := by
  simp only [Method.named_iff]
  constructor
  · rintro m r rfl hs
    have hr : Method.Requests (m.order (ps.getD [])) r := (Method.requests_iff m).mpr hs
    exact ⟨_, mode.frames_framer r.unit, sent_of_requests answer mode ps hr⟩
  · intro hn
    cases hm : Method.ofName? name with
    | none => simp [sent, call, order, hm]
    | some m =>
      obtain rfl : m.name = name := Method.ofName?_eq_some_iff.mp hm
      refine sent_of_not_requests answer mode ps fun r hr => hn ⟨m, r, rfl, ?_⟩
      exact (Method.requests_iff m).mp hr

/-- Ten coils in two bytes, whose last six bits are dropped, in two modes; and the same parameters
with a name that no method has. -/
theorem call_sends_ten_coils :
    let ps : Params := [("slave_id", .int 17), ("address", .int 19), ("quantity", .int 10),
      ("value", .text "zQE=")]
    let r : Request :=
      ⟨17, 19, .writeCoils [true, false, true, true, false, false, true, true, true, false]⟩
    Sound ps .writeMultipleCoils r ∧
      sent (fun _ => .ok {}) .tcp "modbus-write-multiple-coils" ps = [(.socket, r)] ∧
      sent (fun _ => .ok {}) .ascii "modbus-write-multiple-coils" ps = [(.ascii, r)] ∧
      (¬ ∃ m r', Method.Named "modbus-write-coils" m ∧ Sound ps m r') ∧
      sent (fun _ => .ok {}) .tcp "modbus-write-coils" ps = [] := by
  intro ps r
  have hs : Sound ps .writeMultipleCoils r := by
    refine ⟨.inl ⟨rfl, by decide⟩, ⟨rfl, by decide⟩, ?_⟩
    apply @Wants.writeMultipleCoils _ 10 [0xCD, 0x01]
    · exact ⟨rfl, by decide⟩
    · exact ⟨_, rfl, Base64.means_iff.mpr rfl⟩
    · decide
    · decide
    · unfold AreBits
      decide
  have hn : ¬ ∃ m r', Method.Named "modbus-write-coils" m ∧ Sound ps m r' := by
    rintro ⟨m, -, hm, -⟩
    cases m <;> exact absurd (Method.named_iff.mp hm) (by decide)
  obtain ⟨_, ⟨⟩, ht⟩ :=
    (call_sends (fun _ => .ok {}) .tcp _ (some ps)).1 _ r .writeMultipleCoils hs
  obtain ⟨_, ⟨⟩, ha⟩ :=
    (call_sends (fun _ => .ok {}) .ascii _ (some ps)).1 _ r .writeMultipleCoils hs
  exact ⟨hs, ht, ha, hn, (call_sends _ .tcp _ (some ps)).2 hn⟩

end Service

end ModbusRpc
