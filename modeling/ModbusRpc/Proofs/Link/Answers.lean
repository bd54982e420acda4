import ModbusRpc.Proofs.Link.Interleaving
import ModbusRpc.Proofs.Link.Use

/-! # What becomes of an answer

A use that has a connected client hands on the response, or makes a fault of what the device reports
instead. Only a broken connection costs the link its client; after any other answer the next use for
the same framer asks at once. Whatever the answer, the use gives the link back.
-/

namespace ModbusRpc.Link

variable {ρ : Type} {w : Wire} {plan : Plan ρ} {framer : Framer} {request : ρ} {l m : Link}
  {n k : Nat} {opening es : List (Event ρ)} {v : Except Fault Response}

/-- How a use ends on an answer, and whether the link keeps the client. -/
inductive Settled (w : Wire) :
    Except DeviceFault Response → Except Fault Response → (kept : Bool) → Prop where
  | response (r : Response) : Settled w (.ok r) (.ok r) true
  | missed {fault : DeviceFault} {f : Fault} : fault.kind = .stack .inputOutput →
      f = .link (.noResponse w.description w.timeout.text) →
      f.isModbus = true → f.isSystem = true → Settled w (.error fault) (.error f) true
  | broken {fault : DeviceFault} {f : Fault} : fault.kind = .stack .connection →
      f = .link (.broken fault.message) → f.message = fault.message →
      f.isModbus = false → f.isSystem = true → Settled w (.error fault) (.error f) false
  | rejected {fault : DeviceFault} {kind : StackKind} {f : Fault} : fault.kind = .stack kind →
      kind ≠ .inputOutput → kind ≠ .connection →
      f = .link (.transaction fault.message) → f.message = fault.message →
      f.isModbus = true → f.isSystem = false → Settled w (.error fault) (.error f) true
  | foreign {fault : DeviceFault} : (∀ kind, fault.kind ≠ .stack kind) →
      Settled w (.error fault) (.error (.device fault)) true

theorem settled_of_kept {answer : Except DeviceFault Response}
    (hn : ∀ fault, answer = .error fault → fault.kind ≠ .stack .connection) :
    Settled w answer (verdict w answer) true := by
  cases answer with
  | ok r => exact .response r
  | error fault =>
    have hn := hn fault rfl
    have hv : verdict w (.error fault) = .error (failure w fault) := rfl
    rw [hv]
    cases hk : fault.kind with
    | stack kind =>
      cases kind with
      | inputOutput =>
        have hf : failure w fault = .link (.noResponse w.description w.timeout.text) := by
          simp [failure, hk]
        rw [hf]
        exact .missed hk rfl rfl rfl
      | connection => exact absurd hk hn
      | general | parameter | unknownUnit | notImplemented | registration =>
        have hf : failure w fault = .link (.transaction fault.message) := by simp [failure, hk]
        rw [hf]
        exact .rejected hk (by decide) (by decide) rfl rfl rfl rfl
    | modbus _ | system _ | other _ =>
      have hf : failure w fault = .device fault := by simp [failure, hk]
      rw [hf]
      exact .foreign (by simp [hk])

/-! ### The use after it -/

theorem Opening.of_connected (h : Opening w framer l opening n) (hc : l.client = some ⟨k, true⟩)
    (hf : l.framer = some framer) : opening = [] ∧ n = k := by
  cases h with
  | ready hl _ =>
    cases hl.symm.trans hc
    exact ⟨rfl, rfl⟩
  | lost hl _ => cases hl.symm.trans hc
  | absent hl => cases hl.symm.trans hc
  | replaced _ hn => exact absurd hf hn

theorem Opening.of_none (h : Opening w framer l opening n) (hc : l.client = none) :
    opening = [.create ⟨w, framer, 0⟩ (some l.created), .connect l.created] := by
  cases h with
  | absent _ => rfl
  | ready hl _ | lost hl _ | replaced hl _ => cases hc.symm.trans hl

theorem Use.of_connected (h : Use w plan framer request l es v m)
    (hc : l.client = some ⟨n, true⟩) (hf : l.framer = some framer) :
    es = [.request n request, .reply n] ∨
      ∃ fault, plan.reply request = .error fault ∧ fault.kind = .stack .connection ∧
        es = [.request n request, .reply n, .close n] := by
  have hs : l.Serves framer := serves_of_client hc hf
  have hr : Reaches l plan framer :=
    ⟨fun hn => absurd hs hn, fun hn => absurd ⟨hs, by simp [Link.connected, hc]⟩ hn⟩
  obtain ⟨opening, k, ho, ⟨-, -, hk⟩ | ⟨fault, ha, hk, -, hd⟩⟩ := h.of_reaches hr
  · obtain ⟨rfl, rfl⟩ := ho.of_connected hc hf
    exact .inl hk.events
  · obtain ⟨rfl, rfl⟩ := ho.of_connected hc hf
    exact .inr ⟨fault, ha, hk, hd.events⟩

theorem not_serves_of_none (hc : l.client = none) : ¬ l.Serves framer := by
  simp [Serves, hc]

theorem Use.of_none (h : Use w plan framer request l es v m) (hc : l.client = none)
    (hp : plan.create = .ok ()) :
    [.create ⟨w, framer, 0⟩ (some l.created), .connect l.created] <+: es := by
  obtain ⟨opening, n, ho, he⟩ := h.opens fun _ => hp
  rwa [ho.of_none hc] at he

/-! ### Giving the link back -/

theorem value_settle : (settle w plan request l).value = verdict w (plan.reply request) := by
  cases hc : l.client with
  | none => simp [settle, hc]
  | some c => simp [settle_of_client hc]

namespace Pool.Orderly

variable {p : Pool ρ} {tasks : List (Task ρ)} {i : Nat}

theorem holder_ne_of_ended (h : Orderly tasks p) {outcome : Outcome}
    (ho : p.outcome? i = some outcome) : p.holder ≠ some i := fun hh =>
  Bool.noConfusion ((h.placed i _ (outcome?_eq_some_iff.mp ho)).holder.mp hh)

theorem step_of_answer (h : Orderly tasks p)
    (ht : tasks[i]? = some (.execute plan framer request))
    (hs : p.stand? i = some (.holding .answer)) :
    let q := (p.step (some w) i l).value
    q.holder = none ∧ q.outcome? i = some ((verdict w (plan.reply request)).map some) := by
  have hm : Move (some w) tasks p i l (p.step (some w) i l) := h.step_move i l
  generalize p.step (some w) i l = r at hm
  cases hm with
  | idles hk => rcases hk _ hs with ⟨_, he⟩ | ⟨he, _⟩ <;> cases he
  | asks hf => cases hs.symm.trans hf
  | takes _ hf _ _ => cases hs.symm.trans hf
  | @goes task wait ht' hs' =>
    cases ht.symm.trans ht'
    cases hs.symm.trans hs'
    have hn : ((Task.execute plan framer request).proceed (some w) .answer l).value =
        .ends ((verdict w (plan.reply request)).map some) := by
      simp [Task.proceed, value_settle]
    suffices hq : ∀ next, next = .ends ((verdict w (plan.reply request)).map some) →
        (p.advance i next).holder = none ∧
          (p.advance i next).outcome? i = some ((verdict w (plan.reply request)).map some) from
      hq _ hn
    rintro _ rfl
    refine ⟨rfl, outcome?_eq_some_iff.mpr ?_⟩
    simp [stand?_advance, stand?_setStand, hs, Next.stand]

end Pool.Orderly

/-- A use of a link in any state makes a request exactly if it gets a connected client, and then
ends as the answer says. Unless the connection is broken, the client stays, and the next use for its
framer asks it at once; a broken connection is closed once and forgotten, so that the next use
creates a client that has not been there before. A use that shares the link gives it back with the
section behind its answer. -/
theorem execute_settled (w : Wire) (jobs : List (Job ρ)) (plan : Plan ρ) (framer : Framer)
    (request : ρ) :
    let h := inTurn (some w) jobs {}
    let r := execute w plan framer request h.link
    ((∃ n q, .request n q ∈ r.events) ↔ Reaches h.link plan framer) ∧
    (Reaches h.link plan framer → ∃ opening n kept, Opening w framer h.link opening n ∧
      Settled w (plan.reply request) r.value kept ∧
      (kept = true → Keeps framer request opening n r.events r.link ∧
        closings (h.events ++ r.events) n = 0 ∧
        ∀ (plan' : Plan ρ) (request' : ρ), let s := execute w plan' framer request' r.link
          s.events = [.request n request', .reply n] ∨
          ∃ fault, plan'.reply request' = .error fault ∧ fault.kind = .stack .connection ∧
            s.events = [.request n request', .reply n, .close n]) ∧
      (kept = false → Drops request opening n r.events r.link ∧
        closings (h.events ++ r.events) n = 1 ∧
        ∀ (plan' : Plan ρ) (framer' : Framer) (request' : ρ),
          let s := execute w plan' framer' request' r.link
          (plan'.create = .ok () → ∃ k, ¬ Opened (h.events ++ r.events) k ∧
            [.create ⟨w, framer', 0⟩ (some k), .connect k] <+: s.events) ∧
          (∀ fault, plan'.create = .error fault →
            s.events = [.create ⟨w, framer', 0⟩ none]))) ∧
    ∀ tasks schedule i, tasks[i]? = some (.execute plan framer request) →
      let p := (Pool.ofTasks tasks).run (some w) schedule h.link
      (p.value.stand? i = some (.holding .answer) →
        p.value.holder = some i ∧
        let q := (p.value.step (some w) i p.link).value
        q.holder = none ∧ q.outcome? i = some ((verdict w (plan.reply request)).map some)) ∧
      ∀ outcome, p.value.outcome? i = some outcome → p.value.holder ≠ some i := by
  intro h r
  have hu : Use w plan framer request h.link r.events r.value r.link :=
    execute_use w plan framer request h.link
  have hl : Ledger w r.link (h.events ++ r.events) :=
    (ledger_inTurn w jobs).course (follows_execute plan framer request h.link)
  refine ⟨⟨?_, ?_⟩, ?_, ?_⟩
  · rintro ⟨n, q, hq⟩
    exact hu.of_request hq
  · intro hr
    obtain ⟨opening, n, -, ⟨-, -, hk⟩ | ⟨-, -, -, -, hd⟩⟩ := hu.of_reaches hr
    · exact ⟨n, request, by simp [hk.events]⟩
    · exact ⟨n, request, by simp [hd.events]⟩
  · intro hr
    obtain ⟨opening, n, ho, ⟨hn, hv, hk⟩ | ⟨fault, ha, hb, hv, hd⟩⟩ := hu.of_reaches hr
    · refine ⟨opening, n, true, ho, hv ▸ settled_of_kept hn, fun _ => ⟨hk, ?_, ?_⟩, nofun⟩
      · exact hl.closings_of_client hk.client
      · intro plan' request'
        exact (execute_use w plan' framer request' r.link).of_connected hk.client hk.framer_eq
    · refine ⟨opening, n, false, ho, ?_, nofun, fun _ => ⟨hd, ?_, ?_⟩⟩
      · rw [ha, hv]
        exact .broken hb rfl rfl rfl rfl
      · exact hl.closings_of_mem (by simp [hd.events])
      · intro plan' framer' request' s
        have hs : Use w plan' framer' request' r.link s.events s.value s.link :=
          execute_use w plan' framer' request' r.link
        refine ⟨fun hp => ⟨r.link.created, ?_, hs.of_none hd.client hp⟩, fun fault hp => ?_⟩
        · simp [hl.opened_iff]
        · simpa [hd.client] using (hs.of_create_error (not_serves_of_none hd.client) hp).1
  · intro tasks schedule i ht p
    have ho : Pool.Orderly tasks p.value := (Serial.ofTasks schedule).1
    exact ⟨fun hs => ⟨(ho.placed i _ hs).holder.mpr rfl, ho.step_of_answer ht hs⟩,
      fun _ he => ho.holder_ne_of_ended he⟩

/-- A connection that breaks on the second request costs the link the client of the first. -/
theorem execute_settled_broken :
    let w : Wire := ⟨.tcp "localhost" 502, .whole 1⟩
    let q : Request := ⟨1, 0, .readBits .coils 8⟩
    let reset : DeviceFault := ⟨.stack .connection, "reset"⟩
    let breaks : Plan Request := ⟨.ok (), .ok true, fun _ => .error reset⟩
    let h := inTurn (some w) [⟨false, some (.execute Device.pattern .socket q)⟩] {}
    let r := execute w breaks .socket q h.link
    Reaches h.link breaks .socket ∧
      ∃ opening n, Opening w .socket h.link opening n ∧ Drops q opening n r.events r.link ∧
        closings (h.events ++ r.events) n = 1 := by
  intro w q reset breaks h r
  have hr : Reaches h.link breaks .socket := ⟨fun _ => rfl, fun _ => rfl⟩
  refine ⟨hr, ?_⟩
  obtain ⟨-, hs, -⟩ :=
    execute_settled w [⟨false, some (.execute Device.pattern .socket q)⟩] breaks .socket q
  obtain ⟨opening, n, kept, ho, hv, -, hd⟩ := hs hr
  obtain rfl : kept = false := by
    cases hv with
    | broken _ _ _ _ _ => rfl
    | missed hk _ _ _ => cases hk
    | rejected hk _ hn _ _ _ _ =>
      cases hk
      exact absurd rfl hn
  exact ⟨opening, n, ho, (hd rfl).1, (hd rfl).2.1⟩

end ModbusRpc.Link
