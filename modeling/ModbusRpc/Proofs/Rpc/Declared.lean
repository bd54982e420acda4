import ModbusRpc.Proofs.Rpc.Gate
import ModbusRpc.Rpc.Call

/-! # The parameters that count

A method looks at the parameters that it declares and at no others, and takes a null for none. Calls
whose parameters agree in these are one and the same computation over any link.
-/

namespace ModbusRpc

def Method.declared : Method → List Text
  | readCoil | readDiscrete | readInput | readHolding => ["address", "slave_id", "quantity"]
  | writeCoil | writeRegister => ["address", "slave_id", "value"]
  | writeMultipleCoils | writeMultipleRegisters => ["address", "slave_id", "quantity", "value"]

namespace Params

/-- Both give the same value at a key, or none; a null is none. -/
def AgreeAt (ps ps' : Params) (key : Text) : Prop := ∀ v, ps.Gives key v ↔ ps'.Gives key v

variable {ps ps' : Params} {key : Text}

theorem agreeAt_iff : ps.AgreeAt ps' key ↔ ps.given? key = ps'.given? key := by
  rw [Option.ext_iff]
  exact forall_congr' fun v => by rw [gives_iff, gives_iff]

theorem Lacks.agreeAt (h : ps.Lacks key) (h' : ps'.Lacks key) : ps.AgreeAt ps' key :=
  fun v => iff_of_false (h v) (h' v)

theorem lacks_nil (key : Text) : Lacks [] key := by
  rintro v ⟨⟨⟩, _⟩

theorem lacks_put_null (ps : Params) (key : Text) : Lacks (Members.put key .null ps) key := by
  rintro v ⟨hv, hn⟩
  exact hn (Option.some.inj (Members.get?_put_self.symm.trans hv)).symm

theorem agreeAt_put_of_ne {k : Text} {v : Json} (h : key ≠ k) :
    AgreeAt (Members.put k v ps) ps key := by
  intro w
  unfold Gives
  rw [Members.get?_put_of_ne h]

/-! ### Accessors -/

theorem integer_congr {default? : Option Int} (h : ps.AgreeAt ps' key) :
    ps.integer key default? = ps'.integer key default? := by
  unfold integer
  rw [agreeAt_iff.mp h]

theorem word_congr {default? : Option Int} (h : ps.AgreeAt ps' key) :
    ps.word key default? = ps'.word key default? := by
  unfold word
  rw [integer_congr h]

theorem unit_congr (h : ps.AgreeAt ps' "slave_id") : ps.unit = ps'.unit := by
  unfold unit
  rw [integer_congr h]

theorem addressAnd_congr (ha : ps.AgreeAt ps' "address") (h : ps.AgreeAt ps' key) :
    addressAnd key ps = addressAnd key ps' := by
  unfold addressAnd
  rw [word_congr ha, word_congr h]

theorem bytes_congr (h : ps.AgreeAt ps' key) : ps.bytes key = ps'.bytes key := by
  unfold bytes
  rw [agreeAt_iff.mp h]

end Params

/-! ### Calls -/

variable {ps ps' : Params} {m : Method} {name : String}

theorem Method.order_congr (h : ∀ key ∈ m.declared, ps.AgreeAt ps' key) :
    m.order ps = m.order ps' := by
  cases m with
  | readCoil | readDiscrete | readInput | readHolding =>
    simp only [declared, List.forall_mem_cons] at h
    obtain ⟨ha, hu, hq, -⟩ := h
    simp only [order, readOrder, Params.addressAndQuantity, Params.addressAnd_congr ha hq,
      Params.unit_congr hu]
  | writeCoil | writeRegister =>
    simp only [declared, List.forall_mem_cons] at h
    obtain ⟨ha, hu, hv, -⟩ := h
    simp only [order, Params.addressAndValue, Params.addressAnd_congr ha hv, Params.unit_congr hu]
  | writeMultipleCoils | writeMultipleRegisters =>
    simp only [declared, List.forall_mem_cons] at h
    obtain ⟨ha, hu, hq, hv, -⟩ := h
    simp only [order, writeOrder, Params.addressAndQuantity, Params.addressAnd_congr ha hq,
      Params.bytes_congr hv, Params.unit_congr hu]

namespace Service

theorem order_congr
    (h : ∀ m : Method, Method.Named name m → ∀ key ∈ m.declared, ps.AgreeAt ps' key) :
    order name ps = order name ps' := by
  unfold order
  cases hm : Method.ofName? name with
  | none => rfl
  | some m =>
    have hn : Method.Named name m := Method.named_iff.mpr (Method.ofName?_eq_some_iff.mp hm)
    simp only [Method.order_congr (h m hn)]

section Read

variable {ms : Members} {c : Call}

theorem checkParams_of_issues (h : (Call.checkParams ms).issues = []) :
    (Params.Lacks ms "params" ∧ (Call.checkParams ms).value = none) ∨
      ∃ ps, Params.Gives ms "params" (.object ps) ∧ (Call.checkParams ms).value = some ps := by
  unfold Call.checkParams at h ⊢
  split at h
  case h_1 hg =>
    refine .inl ⟨?_, rfl⟩
    rintro v ⟨hv, -⟩
    cases hg.symm.trans hv
  case h_2 hg =>
    refine .inl ⟨?_, rfl⟩
    rintro v ⟨hv, hn⟩
    exact hn (Option.some.inj (hg.symm.trans hv)).symm
  case h_3 ps hg => exact .inr ⟨ps, ⟨hg, nofun⟩, rfl⟩
  case h_4 => cases h

theorem params_of_ofJson (h : Call.ofJson (.object ms) = .ok c) :
    (Params.Lacks ms "params" ∧ c.params = none) ∨
      ∃ ps, Params.Gives ms "params" (.object ps) ∧ c.params = some ps := by
  obtain ⟨hi, hc⟩ := ite_eq_ok_iff.mp h
  have hi : (Call.checkVersion ms).issues ++ ((Call.checkId ms).issues ++
      ((Call.checkMethod ms).issues ++ ((Call.checkParams ms).issues ++ []))) = [] :=
    List.isEmpty_iff.mp hi
  simp only [List.append_nil, List.append_eq_nil_iff] at hi
  have hp : c.params = (Call.checkParams ms).value := Except.ok.inj hc ▸ rfl
  rw [hp]
  exact checkParams_of_issues hi.2.2.2

end Read

section Agreement

variable {μ : Type → Type} [Monad μ]

/-- Over any link, calls of one method are the same if their parameters agree in what the method
declares. So a call that has none of that is a call without parameters, whether they are absent,
null, empty or foreign, and neither a foreign key nor a null changes a call. -/
theorem call_declared (execute : Framer → Request → μ (Except Fault Response)) (mode : Mode)
    (name : String) :
    (∀ ps ps' : Option Params, (∀ m : Method, Method.Named name m → ∀ key ∈ m.declared,
        (ps.getD []).AgreeAt (ps'.getD []) key) →
      call execute mode name ps = call execute mode name ps') ∧
    (∀ ms c, Call.ofJson (.object ms) = .ok c →
      (∀ ps : Params, Params.Gives ms "params" (.object ps) →
        ∀ m : Method, Method.Named name m → ∀ key ∈ m.declared, ps.Lacks key) →
      call execute mode name c.params = call execute mode name none) ∧
    ∀ (ps : Params) (key : Text) (v : Json),
      (v = .null ∧ ps.Lacks key ∨ ∀ m : Method, Method.Named name m → key ∉ m.declared) →
      call execute mode name (some (Members.put key v ps)) = call execute mode name (some ps) := by
  have hcall : ∀ ps ps' : Option Params, (∀ m : Method, Method.Named name m → ∀ key ∈ m.declared,
      (ps.getD []).AgreeAt (ps'.getD []) key) →
      call execute mode name ps = call execute mode name ps' := by
    intro ps ps' h
    unfold call
    rw [order_congr h]
  refine ⟨hcall, fun ms c hc h => ?_, fun ps key v h => ?_⟩
  · rcases params_of_ofJson hc with ⟨-, hp⟩ | ⟨ps, hg, hp⟩
    · rw [hp]
    · rw [hp]
      exact hcall _ _ fun m hm key hk => (h ps hg m hm key hk).agreeAt (Params.lacks_nil key)
  · refine hcall _ _ fun m hm k hk => ?_
    by_cases he : k = key
    · subst he
      rcases h with ⟨rfl, hl⟩ | hd
      · exact (Params.lacks_put_null ps k).agreeAt hl
      · exact absurd hk (hd m hm)
    · exact Params.agreeAt_put_of_ne he

end Agreement

theorem call_declared_read :
    let execute := record fun _ => .ok {}
    let mode := Mode.tcp
    let name := "modbus-read-holding"
    let ps : Params := [("address", .int 4), ("slave_id", .null), ("value", .text "x"),
      ("quantity", .int 1)]
    let ps' : Params := [("quantity", .int 1), ("unit", .int 7), ("address", .int 4)]
    let ms : Members := [("method", .text name), ("params", .object [("unit", .int 7)])]
    let c : Call := ⟨.none, name, some [("unit", .int 7)]⟩
    (∀ m : Method, Method.Named name m → ∀ key ∈ m.declared, ps.AgreeAt ps' key) ∧
      call execute mode name (some ps) = call execute mode name (some ps') ∧
      Call.ofJson (.object ms) = .ok c ∧
      call execute mode name c.params = call execute mode name none ∧
      call execute mode name (some (Members.put "value" .null ps)) =
        call execute mode name (some ps) := by
  intro execute mode name ps ps' ms c
  have hm : ∀ m : Method, Method.Named name m → m = .readHolding := fun m h =>
    Method.name_inj.mp (Method.named_iff.mp h)
  have h : ∀ m : Method, Method.Named name m → ∀ key ∈ m.declared, ps.AgreeAt ps' key := by
    intro m hn
    obtain rfl := hm m hn
    simp only [Method.declared, List.forall_mem_cons]
    exact ⟨Params.agreeAt_iff.mpr rfl, Params.agreeAt_iff.mpr rfl, Params.agreeAt_iff.mpr rfl,
      nofun⟩
  have hl : ∀ qs : Params, Params.Gives ms "params" (.object qs) →
      ∀ m : Method, Method.Named name m → ∀ key ∈ m.declared, qs.Lacks key := by
    rintro qs ⟨⟨⟩, -⟩ m hn
    obtain rfl := hm m hn
    simp only [Method.declared, List.forall_mem_cons]
    exact ⟨Params.lacks_iff.mpr rfl, Params.lacks_iff.mpr rfl, Params.lacks_iff.mpr rfl, nofun⟩
  have hd : ∀ m : Method, Method.Named name m → (Text.ofString "value") ∉ m.declared := by
    intro m hn
    obtain rfl := hm m hn
    decide
  have hj : Call.ofJson (.object ms) = .ok c := by
    have hn : Call.methodName (.text name) = .ok name := by
      simp [Call.methodName, Validation.string, bind_eq_ok_iff, name]
    have hm : Call.checkMethod ms = ⟨name, []⟩ :=
      congrArg (Checked.of ["method"] (.text name) "") hn
    change (Call.check ms).result = .ok c
    unfold Call.check
    rw [hm]
    rfl
  obtain ⟨h1, h2, h3⟩ := call_declared execute mode name
  exact ⟨h, h1 (some ps) (some ps') h, hj, h2 ms c hj hl, h3 ps "value" .null (.inr hd)⟩

end Service

end ModbusRpc
